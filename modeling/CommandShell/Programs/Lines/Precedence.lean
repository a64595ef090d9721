import CommandShell.Programs.Sources

/-!
# What comes before what

The tool that puts names into an order in which each pair of its input is kept. Names without
predecessors wait in a row; each that leaves it sets those behind it free. If none is left in the
row and names remain, there is a loop, which is shown and broken at one pair.
-/
namespace CommandShell.Precedence
open Bytes

abbrev Name := List UInt8

/-- A name, how many others have to come before it, and which ones come after it, the pair that was
read last in front. -/
structure Node where
  name : Name
  before : Nat
  after : List Name
  done : Bool

abbrev Graph := List Node

namespace Graph

def insert (g : Graph) (name : Name) : Graph :=
  if g.any (·.name = name) then g
  else
    let node : Node := ⟨name, 0, [], false⟩
    g.takeWhile (precedes ·.name name) ++ node :: g.dropWhile (precedes ·.name name)

def change (g : Graph) (name : Name) (f : Node → Node) : Graph :=
  g.map fun n => if n.name = name then f n else n

/-- Takes in a pair; a pair of one name only says that the name is there. -/
def addPair (g : Graph) (a b : Name) : Graph :=
  let g := (g.insert a).insert b
  if a = b then g
  else
    (g.change a fun n => { n with after := b :: n.after }).change b fun n =>
      { n with before := n.before + 1 }

def ofPairs : Graph → List Name → Graph
  | g, a :: b :: rest => ofPairs (g.addPair a b) rest
  | g, _ => g

def find? (g : Graph) (name : Name) : Option Node := List.find? (·.name = name) g

def free (g : Graph) : List Name :=
  (g.filter fun n => n.before = 0 ∧ ¬ n.done).map Node.name

/-- Takes one away from what has to come before a name; says whether nothing is left. -/
def release (g : Graph) (name : Name) : Graph × Bool :=
  let g := g.change name fun n => { n with before := n.before - 1 }
  (g, (g.find? name).any (·.before = 0))

/-- Lets the first of the row go, and those behind it join the row. -/
def leave (g : Graph) (name : Name) (row : List Name) : Graph × List Name :=
  let after := ((g.find? name).map Node.after).getD []
  let g := g.change name fun n => { n with done := true }
  after.foldl (fun (g, row) next =>
    let (g, isFree) := g.release next
    (g, if isFree then row ++ [next] else row)) (g, row)

/-- Empties the row; `fuel` bounds how many leave it. -/
def drain : Nat → Graph → List Name → List Name → Graph × List Name
  | 0, g, _, out => (g, out)
  | _, g, [], out => (g, out)
  | fuel + 1, g, name :: row, out =>
    let (g, row) := g.leave name row
    drain fuel g row (name :: out)

/-! ## Loops -/

/-- A path against the direction of the pairs, the name that was found last in front. -/
abbrev Trail := List Name

/-- What a walk over the nodes finds: the trail so far, or the loop at its front and the pair that
closes it. -/
inductive Walk
  | going (trail : Trail)
  | found (loop : List Name) (pair : Name × Name)

/-- Visits a node that is still waiting. If the front of the trail comes after it, it goes in front
of that, or closes a loop if it is on the trail behind the place where it started. -/
def visit (trail : Trail) (n : Node) : Walk :=
  if n.before = 0 then .going trail
  else
    match trail with
    | [] => .going [n.name]
    | front :: rest =>
      if !n.after.contains front then .going trail
      else if (front :: rest).dropLast.contains n.name then
        .found ((front :: rest).takeWhile (· ≠ n.name) ++ [n.name]) (n.name, front)
      else .going (n.name :: front :: rest)

/-- Walks over the nodes again and again until there is a loop; `fuel` bounds the visits. -/
def loop? (g : Graph) : Nat → Trail → List Node → Option (List Name × Name × Name)
  | 0, _, _ => none
  | fuel + 1, trail, [] => if trail = [] then none else loop? g fuel trail g
  | fuel + 1, trail, n :: rest =>
    match visit trail n with
    | .going trail => loop? g fuel trail rest
    | .found loop pair => some (loop, pair)

def break_ (g : Graph) (pair : Name × Name) : Graph :=
  let (g, _) := (g.change pair.1 fun n => { n with after := n.after.erase pair.2 }).release pair.2
  g

end Graph

/-- The names in order, and the loops that were broken; `fuel` bounds their number. -/
def order : Nat → Graph → List Name × List (List Name)
  | 0, _ => ([], [])
  | fuel + 1, g =>
    let (g, out) := g.drain (g.length + 1) g.free []
    if g.all Node.done then (out.reverse, [])
    else
      match g.loop? ((g.length + 2) * (g.length + 2) * 4) [] g with
      | none => (out.reverse, [])
      | some (loop, pair) =>
        let (later, loops) := order fuel (g.break_ pair)
        (out.reverse ++ later, loop :: loops)

def isGap (b : UInt8) : Bool := b = 32 || b = 9 || b = 10

def wordsOf (bytes : ByteArray) : List Name :=
  (bytes.toList.splitOnP isGap).filter (· ≠ [])

def tsort : Tool := .withOptions (.of "" []) 1 fun o job w =>
  match o.operands with
  | _ :: second :: _ => (Tool.misused job s!"extra operand {Naming.literal second}" 1, w)
  | operands =>
    let file := Naming.ifNeeded (operands.headD "-")
    Tool.reading (fun _ job sources =>
      match sources.map Source.contents with
      | [.ok bytes] =>
        let words := wordsOf bytes
        if words.length % 2 = 1 then
          ⟨[s!"{job.name}: {file}: input contains an odd number of tokens"], .empty, 1⟩
        else
          let (names, loops) := order (words.length + 1) (Graph.ofPairs [] words)
          let text (name : Name) : String := String.ofList (name.map fun b => Char.ofNat b.toNat)
          let said := loops.flatMap fun loop =>
            s!"{job.name}: {file}: input contains a loop:" ::
              loop.map fun name => s!"{job.name}: {text name}"
          ⟨said, unlines names, if loops = [] then 0 else 1⟩
      | [.error .isFolder] => ⟨[s!"{job.name}: {file}: read error: Is a directory"], .empty, 1⟩
      | _ => ⟨Source.complaints job.name sources, .empty, 1⟩) o job w

end CommandShell.Precedence
