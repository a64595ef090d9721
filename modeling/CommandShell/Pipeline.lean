import CommandShell.Syntax
import CommandShell.Path

/-!
# Pipelines

A pipeline is the stages of a line in order. A stage may carry a redirection clause. The clause is
written after the last stage; it stays there when it takes output, and feeds the first stage of a
chain when it gives input.

Trees that are not well-formed are flattened too, as far as they can be: every pipe expression ends
the stage before it, and nothing that stands after a pipe expression is read.
-/
namespace CommandShell

/-- A redirection with the files it names. -/
structure Clause where
  op : Redirect
  targets : List Path
  deriving DecidableEq, Repr

structure Stage where
  command : String
  args : List String
  clause : Option Clause
  deriving DecidableEq, Repr

def Stage.words (s : Stage) : List String := s.command :: s.args

structure Pipeline where
  stages : List Stage
  stages_ne_nil : stages ≠ []
  deriving DecidableEq

/-- Why a tree gives no pipeline. -/
inductive PlanFault
  | strangeInCall (kind : String)
  | strangeInRedirection (kind : String)
  | strangeInLine (kind : String)
  | redirectionIncomplete
  | commandMissing
  | stageMissing
  deriving DecidableEq, Repr

def PlanFault.message : PlanFault → String
  | strangeInCall kind => s!"unexpected {kind} in command expression"
  | strangeInRedirection kind => s!"unexpected {kind} in redirection expression"
  | strangeInLine kind => s!"unexpected {kind} at pipeline level"
  | redirectionIncomplete => "redirection expression needs an operator and a file"
  | commandMissing => "stage has no command name"
  | stageMissing => "a pipeline needs at least one stage"

/-- The stage that is being read. A command that is read later takes the place of an earlier one,
while operands add up. -/
structure StageDraft where
  command : String
  args : List String
  clause : Option Clause

namespace StageDraft

def blank : StageDraft := ⟨"", [], none⟩

def readCall (d : StageDraft) : List Node → Except PlanFault StageDraft
  | [] => .ok d
  | .command name :: rest => readCall { d with command := name } rest
  | .file name :: rest => readCall { d with args := d.args ++ [name] } rest
  | node :: _ => .error (.strangeInCall node.kind)

/-- Reads the slots of a redirection into the operator and the files read so far. -/
def readRedirection : Option Redirect → List Path → List Node → Except PlanFault Clause
  | some op, target :: targets, [] => .ok ⟨op, target :: targets⟩
  | _, _, [] => .error .redirectionIncomplete
  | _, targets, .redirect op :: rest => readRedirection (some op) targets rest
  | op, targets, .file name :: rest => readRedirection op (targets ++ [Path.ofString name]) rest
  | _, _, node :: _ => .error (.strangeInRedirection node.kind)

/-- A stage needs a name to run under. -/
def finish (d : StageDraft) : Except PlanFault Stage :=
  if d.command = "" then .error .commandMissing else .ok ⟨d.command, d.args, d.clause⟩

end StageDraft

namespace Node

/-- The slots of a pipe expression without the pipes among them. -/
def afterPipe (p command : Node) (tail : Option Node) : List Node :=
  (p :: command :: tail.toList).filter (· ≠ pipe)

noncomputable def weight : List Node → Nat
  | [] => 0
  | node :: rest => sizeOf node + weight rest

theorem weight_filter_le (keep : Node → Bool) (nodes : List Node) :
    weight (nodes.filter keep) ≤ weight nodes := by
  induction nodes with
  | nil => simp
  | cons node nodes ih =>
    cases h : keep node <;> simp [weight, h] at ih ⊢ <;> omega

theorem weight_afterPipe_lt (p command : Node) (tail : Option Node) (rest : List Node) :
    weight (afterPipe p command tail) < weight (pipeExpr p command tail :: rest) := by
  have h := weight_filter_le (· ≠ pipe) (p :: command :: tail.toList)
  refine Nat.lt_of_le_of_lt h ?_
  cases tail <;> simp [weight] <;> omega

theorem weight_lt_cons (node : Node) (rest : List Node) : weight rest < weight (node :: rest) := by
  have hnode : 0 < sizeOf node := by cases node <;> simp +arith
  simp [weight, hnode]

end Node

/-- The stages of a row of nodes, the first of which has been read in part. -/
def stagesOf (d : StageDraft) (nodes : List Node) : Except PlanFault (List Stage) :=
  match nodes with
  | [] =>
    match d.finish with
    | .error e => .error e
    | .ok stage => .ok [stage]
  | .commandExpr c files :: rest =>
    match d.readCall (c :: files) with
    | .error e => .error e
    | .ok d => stagesOf d rest
  | .redirectExpr op first more :: rest =>
    match StageDraft.readRedirection none [] (op :: first :: more) with
    | .error e => .error e
    | .ok clause => stagesOf { d with clause := some clause } rest
  | .pipeExpr p c tail :: _ =>
    match d.finish with
    | .error e => .error e
    | .ok stage =>
      match stagesOf .blank (Node.afterPipe p c tail) with
      | .error e => .error e
      | .ok stages => .ok (stage :: stages)
  | node :: _ => .error (.strangeInLine node.kind)
termination_by Node.weight nodes
decreasing_by
  · exact Node.weight_lt_cons _ _
  · exact Node.weight_lt_cons _ _
  · exact Node.weight_afterPipe_lt _ _ _ _

def giveFirst (clause : Clause) : List Stage → List Stage
  | [] => []
  | s :: rest => { s with clause := some clause } :: rest

def bareLast : List Stage → List Stage
  | [] => []
  | [s] => [{ s with clause := none }]
  | s :: rest => s :: bareLast rest

/-- An input clause feeds the head of a chain. -/
def relocate (stages : List Stage) : List Stage :=
  match stages.length, stages.getLast?.bind Stage.clause with
  | _ + 2, some clause => if clause.op = .input then giveFirst clause (bareLast stages) else stages
  | _, _ => stages

namespace Pipeline

def ofStages? (stages : List Stage) : Except PlanFault Pipeline :=
  if h : stages ≠ [] then .ok ⟨stages, h⟩ else .error .stageMissing

/-- The pipeline of a tree, which need not be a line. -/
def ofNode (node : Node) : Except PlanFault Pipeline :=
  match stagesOf .blank node.children with
  | .error e => .error e
  | .ok stages => ofStages? (relocate stages)

def clause (p : Pipeline) : Option Clause := p.stages.findSome? Stage.clause

/-- The tokens that mean the pipeline: its stages between pipes, and its clause last. -/
def words (p : Pipeline) : List String :=
  [pipeToken].intercalate (p.stages.map Stage.words) ++
    match p.clause with
    | none => []
    | some c => c.op.symbol :: c.targets.map Path.text

end Pipeline
end CommandShell
