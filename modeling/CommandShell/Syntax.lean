import CommandShell.Token

/-!
# Syntax trees of command lines

A tree may hold any node in any slot, the pipe of a pipe expression included; `Node.WellFormed` says
which trees the grammar means. The words of a tree are its tokens from left to right, which is how a
well-formed tree is written.
-/
namespace CommandShell

/-- A redirection has at least one file, so its first file is a slot of its own. -/
inductive Node
  | command (name : String)
  | file (name : String)
  | pipe
  | redirect (op : Redirect)
  | commandExpr (command : Node) (files : List Node)
  | redirectExpr (op first : Node) (rest : List Node)
  | pipeExpr (pipe command : Node) (tail : Option Node)
  | expr (command : Node) (tail : Option Node)
  deriving Repr

namespace Node

/-- What a node is, whatever its slots hold. -/
def kind : Node → String
  | command _ => "Command"
  | file _ => "File"
  | pipe => "Pipe"
  | redirect _ => "RedirectionOp"
  | commandExpr .. => "CommandExpr"
  | redirectExpr .. => "RedirectionExpr"
  | pipeExpr .. => "PipeExpr"
  | expr .. => "Expr"

/-- The nodes in the slots, from left to right. -/
def children : Node → List Node
  | commandExpr c files => c :: files
  | redirectExpr op first rest => op :: first :: rest
  | pipeExpr p c tail => p :: c :: tail.toList
  | expr c tail => c :: tail.toList
  | _ => []

theorem sizeOf_lt_of_mem_children {child node : Node} (h : child ∈ node.children) :
    sizeOf child < sizeOf node := by
  cases node with
  | commandExpr c files =>
    rcases List.mem_cons.1 h with rfl | h
    · simp only [commandExpr.sizeOf_spec]; omega
    · have := List.sizeOf_lt_of_mem h
      simp only [commandExpr.sizeOf_spec]; omega
  | redirectExpr op first rest =>
    rcases List.mem_cons.1 h with rfl | h
    · simp only [redirectExpr.sizeOf_spec]; omega
    rcases List.mem_cons.1 h with rfl | h
    · simp only [redirectExpr.sizeOf_spec]; omega
    · have := List.sizeOf_lt_of_mem h
      simp only [redirectExpr.sizeOf_spec]; omega
  | pipeExpr p c tail =>
    rcases List.mem_cons.1 h with rfl | h
    · simp only [pipeExpr.sizeOf_spec]; omega
    rcases List.mem_cons.1 h with rfl | h
    · simp only [pipeExpr.sizeOf_spec]; omega
    · cases tail with
      | none => simp at h
      | some t =>
        simp only [Option.toList_some, List.mem_singleton] at h
        subst h
        simp only [pipeExpr.sizeOf_spec, Option.some.sizeOf_spec]; omega
  | expr c tail =>
    rcases List.mem_cons.1 h with rfl | h
    · simp only [expr.sizeOf_spec]; omega
    · cases tail with
      | none => simp at h
      | some t =>
        simp only [Option.toList_some, List.mem_singleton] at h
        subst h
        simp only [expr.sizeOf_spec, Option.some.sizeOf_spec]; omega
  | _ => simp [children] at h

def words (node : Node) : List String :=
  match node with
  | command name => [name]
  | file name => [name]
  | pipe => [pipeToken]
  | redirect op => [op.symbol]
  | commandExpr c files => c.words ++ files.flatMap words
  | redirectExpr op first rest => op.words ++ first.words ++ rest.flatMap words
  | pipeExpr p c none => p.words ++ c.words
  | pipeExpr p c (some t) => p.words ++ c.words ++ t.words
  | expr c none => c.words
  | expr c (some t) => c.words ++ t.words

/-- A file slot of a well-formed tree: a file whose name is no operator. -/
def IsOperand : Node → Prop
  | file name => isFilename name = true
  | _ => False

/-- One command, under any name, and its operands. -/
def IsCall : Node → Prop
  | commandExpr (command _) files => ∀ f ∈ files, f.IsOperand
  | _ => False

/-- What may follow a call: a pipe with another call and its tail, or a redirection. -/
def IsTail : Node → Prop
  | pipeExpr pipe c none => c.IsCall
  | pipeExpr pipe c (some t) => c.IsCall ∧ t.IsTail
  | redirectExpr (redirect _) first rest => first.IsOperand ∧ ∀ f ∈ rest, f.IsOperand
  | _ => False

/-- The trees of the grammar. -/
def WellFormed : Node → Prop
  | expr c none => c.IsCall
  | expr c (some t) => c.IsCall ∧ t.IsTail
  | _ => False

mutual

def same : Node → Node → Bool
  | command a, command b => a == b
  | file a, file b => a == b
  | pipe, pipe => true
  | redirect a, redirect b => a == b
  | commandExpr c xs, commandExpr d ys => c.same d && sameList xs ys
  | redirectExpr c x xs, redirectExpr d y ys => c.same d && x.same y && sameList xs ys
  | pipeExpr p c t, pipeExpr q d u => p.same q && c.same d && sameOption t u
  | expr c t, expr d u => c.same d && sameOption t u
  | _, _ => false

def sameList : List Node → List Node → Bool
  | [], [] => true
  | x :: xs, y :: ys => x.same y && sameList xs ys
  | _, _ => false

def sameOption : Option Node → Option Node → Bool
  | none, none => true
  | some x, some y => x.same y
  | _, _ => false

end

mutual

theorem eq_of_same {a b : Node} (h : a.same b = true) : a = b := by
  cases a <;> cases b <;> simp_all [same]
  · exact ⟨eq_of_same h.1, eq_of_sameList h.2⟩
  · exact ⟨eq_of_same h.1.1, eq_of_same h.1.2, eq_of_sameList h.2⟩
  · exact ⟨eq_of_same h.1.1, eq_of_same h.1.2, eq_of_sameOption h.2⟩
  · exact ⟨eq_of_same h.1, eq_of_sameOption h.2⟩

theorem eq_of_sameList {xs ys : List Node} (h : sameList xs ys = true) : xs = ys := by
  cases xs <;> cases ys <;> simp_all [sameList]
  exact ⟨eq_of_same h.1, eq_of_sameList h.2⟩

theorem eq_of_sameOption {t u : Option Node} (h : sameOption t u = true) : t = u := by
  cases t <;> cases u <;> simp_all [sameOption]
  exact eq_of_same h

end

mutual

theorem same_self (a : Node) : a.same a = true := by
  cases a <;> simp [same]
  · exact ⟨same_self _, sameList_self _⟩
  · exact ⟨⟨same_self _, same_self _⟩, sameList_self _⟩
  · exact ⟨⟨same_self _, same_self _⟩, sameOption_self _⟩
  · exact ⟨same_self _, sameOption_self _⟩

theorem sameList_self (xs : List Node) : sameList xs xs = true := by
  cases xs <;> simp [sameList]
  exact ⟨same_self _, sameList_self _⟩

theorem sameOption_self (t : Option Node) : sameOption t t = true := by
  cases t <;> simp [sameOption]
  exact same_self _

end

instance : DecidableEq Node := fun a b =>
  decidable_of_iff (a.same b = true) ⟨eq_of_same, fun h => h ▸ same_self a⟩

end Node
end CommandShell
