import CommandShell.Syntax
import CommandShell.Text.Quoted

/-!
# Reading a command line

The grammar is read from left to right with one token in sight:

* a line is a call and an optional tail;
* a call is a command and its operands;
* a tail is a pipe expression or a redirection;
* a pipe expression is a pipe, a call and an optional tail;
* a redirection is an operator and at least one operand.

Any token may stand where a command is expected. A rule that stops names the position of the token
it could not use, and rules look at nothing but the tokens ahead.
-/
namespace CommandShell
open Text

/-- A place in a token list: how many tokens lie behind, and those ahead. -/
structure Cursor where
  index : Nat
  ahead : List String
  deriving DecidableEq, Repr

namespace Cursor

/-- The place before the token with the given index. -/
def «at» (tokens : List String) (index : Nat) : Cursor := ⟨index, tokens.drop index⟩

/-- Operands are the tokens up to the next operator. -/
def operands (c : Cursor) : List Node × Cursor :=
  let taken := c.ahead.takeWhile isFilename
  (taken.map Node.file, ⟨c.index + taken.length, c.ahead.dropWhile isFilename⟩)

theorem operands_length_le (c : Cursor) : c.operands.2.ahead.length ≤ c.ahead.length :=
  (List.dropWhile_sublist _).length_le

end Cursor

/-- Why a line is refused. -/
inductive Detail
  | commandMissing
  | endMissing (token : String)
  | operandMissing (op : Redirect)
  | redirectMissing (token : String)
  deriving DecidableEq, Repr

def Detail.message : Detail → String
  | commandMissing => "expected a command but reached end of input"
  | endMissing token => "expected end of input, got " ++ quoted token
  | operandMissing op => "expected a file after " ++ quoted op.symbol
  | redirectMissing token => "expected a redirection operator, got " ++ quoted token

/-- A refused line, or a rule that was asked to look past the last token. -/
inductive Refusal
  | fault (index : Nat) (detail : Detail)
  | pastEnd
  deriving DecidableEq, Repr

def Refusal.message : Refusal → String
  | fault index detail => s!"parse error at token {index}: " ++ detail.message
  | pastEnd => "list index out of range"

/-- A rule reads a value at a place and says where it stopped. -/
abbrev Rule (α : Type) := Cursor → Except Refusal (α × Cursor)

namespace Rule

def command : Rule Node
  | ⟨index, []⟩ => .error (.fault index .commandMissing)
  | ⟨index, token :: rest⟩ => .ok (.command token, ⟨index + 1, rest⟩)

def call : Rule Node := fun c =>
  match command c with
  | .error e => .error e
  | .ok (cmd, c) => .ok (.commandExpr cmd c.operands.1, c.operands.2)

def redirect : Rule Node
  | ⟨_, []⟩ => .error .pastEnd
  | ⟨index, token :: rest⟩ =>
    match Redirect.ofToken? token with
    | none => .error (.fault index (.redirectMissing token))
    | some op => .ok (.redirect op, ⟨index + 1, rest⟩)

def redirection : Rule Node
  | ⟨_, []⟩ => .error .pastEnd
  | ⟨index, token :: rest⟩ =>
    match Redirect.ofToken? token with
    | none => .error (.fault index (.redirectMissing token))
    | some op =>
      let after : Cursor := ⟨index + 1, rest⟩
      match after.operands.1 with
      | [] => .error (.fault after.operands.2.index (.operandMissing op))
      | first :: more => .ok (.redirectExpr (.redirect op) first more, after.operands.2)

theorem call_length_lt {c d : Cursor} {node : Node} (h : call c = .ok (node, d)) :
    d.ahead.length < c.ahead.length := by
  match c, h with
  | ⟨index, token :: rest⟩, h =>
    simp only [call, command, Except.ok.injEq, Prod.mk.injEq] at h
    rw [← h.2]
    exact Nat.lt_succ_of_le (Cursor.operands_length_le ⟨index + 1, rest⟩)

/-- The tail of a line or of a pipe expression; the pipe token itself is ahead. -/
def tail (c : Cursor) : Except Refusal (Option Node × Cursor) :=
  match c with
  | ⟨_, []⟩ => .ok (none, c)
  | ⟨index, token :: rest⟩ =>
    if token = pipeToken then
      match h : call ⟨index + 1, rest⟩ with
      | .error e => .error e
      | .ok (node, d) =>
        have : d.ahead.length < (token :: rest).length := by
          have := call_length_lt h
          simp only [List.length_cons] at this ⊢
          omega
        match tail d with
        | .error e => .error e
        | .ok (t, d) => .ok (some (.pipeExpr .pipe node t), d)
    else
      match redirection c with
      | .error e => .error e
      | .ok (node, d) => .ok (some node, d)
termination_by c.ahead.length
decreasing_by exact this

/-- A pipe expression; its first token is passed over unseen. -/
def pipeExpr : Rule Node
  | ⟨_, []⟩ => .error .pastEnd
  | ⟨index, _ :: rest⟩ =>
    match call ⟨index + 1, rest⟩ with
    | .error e => .error e
    | .ok (node, d) =>
      match tail d with
      | .error e => .error e
      | .ok (t, d) => .ok (.pipeExpr .pipe node t, d)

/-- A whole line: nothing may follow its tail. -/
def line : Rule Node := fun c =>
  match call c with
  | .error e => .error e
  | .ok (node, d) =>
    match tail d with
    | .error e => .error e
    | .ok (t, ⟨index, []⟩) => .ok (.expr node t, ⟨index, []⟩)
    | .ok (_, ⟨index, token :: _⟩) => .error (.fault index (.endMissing token))

theorem tail_nil (index : Nat) : tail ⟨index, []⟩ = .ok (none, ⟨index, []⟩) := by
  rw [tail]

theorem tail_pipe (index : Nat) (rest : List String) :
    tail ⟨index, pipeToken :: rest⟩ =
      (pipeExpr ⟨index, pipeToken :: rest⟩).map fun r => (some r.1, r.2) := by
  rw [tail]
  simp only [if_true, pipeExpr]
  split
  · next h => rw [h]; rfl
  · next d h =>
    rw [h]
    dsimp only
    cases tail d <;> rfl

theorem tail_redirection {token : String} (h : token ≠ pipeToken) (index : Nat)
    (rest : List String) :
    tail ⟨index, token :: rest⟩ =
      (redirection ⟨index, token :: rest⟩).map fun r => (some r.1, r.2) := by
  rw [tail]
  simp only [if_neg h]
  split <;> rename_i h <;> simp only [h] <;> rfl

end Rule

def parse (tokens : List String) : Except Refusal Node := (Rule.line ⟨0, tokens⟩).map Prod.fst

end CommandShell
