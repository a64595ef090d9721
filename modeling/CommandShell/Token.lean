/-!
# Operator tokens

Four tokens have a meaning of their own: the pipe and the three redirections. Every other token,
the empty one included, may name a file.
-/
namespace CommandShell

/-- What a redirection does with its files. -/
inductive Redirect
  | output
  | append
  | input
  deriving DecidableEq, Repr

namespace Redirect

def symbol : Redirect → String
  | output => ">"
  | append => ">>"
  | input => "<"

def label : Redirect → String
  | output => "OUTPUT"
  | append => "APPEND"
  | input => "INPUT"

def ofToken? (token : String) : Option Redirect :=
  if token = ">" then some output
  else if token = ">>" then some append
  else if token = "<" then some input
  else none

@[simp] theorem ofToken?_symbol (op : Redirect) : ofToken? op.symbol = some op := by
  cases op <;> rfl

theorem ofToken?_eq_some_iff {token : String} {op : Redirect} :
    ofToken? token = some op ↔ token = op.symbol := by
  constructor
  · intro h
    unfold ofToken? at h
    split at h
    · cases h; assumption
    split at h
    · cases h; assumption
    split at h
    · cases h; assumption
    · cases h
  · rintro rfl
    exact ofToken?_symbol op

end Redirect

def pipeToken : String := "|"

/-- A token that is no operator. -/
def isFilename (token : String) : Bool :=
  token != pipeToken && (Redirect.ofToken? token).isNone

theorem isFilename_pipeToken : isFilename pipeToken = false := by simp [isFilename]

theorem isFilename_symbol (op : Redirect) : isFilename op.symbol = false := by
  simp [isFilename]

theorem isFilename_eq_false_iff {token : String} :
    isFilename token = false ↔ token = pipeToken ∨ ∃ op : Redirect, token = op.symbol := by
  cases h : Redirect.ofToken? token with
  | none =>
    have : ∀ op : Redirect, token ≠ op.symbol := fun op he => by
      rw [Redirect.ofToken?_eq_some_iff.2 he] at h
      cases h
    simp [isFilename, h, this]
  | some op =>
    have he := Redirect.ofToken?_eq_some_iff.1 h
    simp only [he, isFilename_symbol, true_iff]
    exact .inr ⟨op, rfl⟩

end CommandShell
