import CommandShell.Syntax
import CommandShell.Text.Quoted

/-!
# Trees as indented lines

A tree is shown with one line per node, each slot two spaces deeper than its node. Names and
operators are quoted, so a name never breaks a line.
-/
namespace CommandShell.Node
open Text

/-- The node alone: its kind and what a leaf says. -/
def heading : Node → String
  | command name => "Command(" ++ quoted name ++ ")"
  | file name => "File(" ++ quoted name ++ ")"
  | redirect op => "RedirectionOp(" ++ quoted op.symbol ++ ")"
  | node => node.kind

/-- Two spaces per level; a level below zero has none. -/
def padding (level : Int) : String := String.ofList (List.replicate (2 * level.toNat) ' ')

/-- The lines of a node at a level and of all nodes below it. -/
def formatLines (level : Int) (node : Node) : List String :=
  (padding level ++ node.heading) ::
    node.children.attach.flatMap fun child => formatLines (level + 1) child.1
termination_by node
decreasing_by exact sizeOf_lt_of_mem_children child.2

theorem formatLines_eq (level : Int) (node : Node) :
    formatLines level node =
      (padding level ++ node.heading) :: node.children.flatMap (formatLines (level + 1)) := by
  rw [formatLines]
  simp [List.flatMap_subtype]

def format (level : Int) (node : Node) : String :=
  String.intercalate "\n" (formatLines level node)

end CommandShell.Node
