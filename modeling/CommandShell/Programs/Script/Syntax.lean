/-!
# Scripts

A script is made of words and commands. A word is a list of parts, each of which stands for itself,
for a value, for the output of commands or for a sum. Texts are rows of bytes here, each of them a
character.
-/
namespace CommandShell.Script

abbrev Chars := List Char

/-- What is done about a value that is missing, or about one that is not. -/
inductive Remedy
  /-- The word stands in for the value. -/
  | substitute
  /-- The word becomes the value. -/
  | assign
  /-- The word says what is wrong. -/
  | complain
  /-- The word stands in for a value that is not missing. -/
  | replace
  deriving DecidableEq, Repr

/-- What happens to a handle. -/
inductive Opening
  | read
  | replace
  /-- Replaces even a file that is guarded. -/
  | overwrite
  | extend
  | readWrite
  | copy
  /-- The word is what the handle holds. -/
  | document
  deriving DecidableEq, Repr

mutual

/-- A part of a word. What a quoted part stands for is neither cut into fields nor matched against
names. -/
inductive Part
  | text (quoted : Bool) (cs : Chars)
  | value (quoted : Bool) (name : Chars) (use : Use)
  | output (quoted : Bool) (body : Command)
  | sum (quoted : Bool) (expression : List Part)

/-- How a value is used. -/
inductive Use
  | plain
  | length
  | mend (remedy : Remedy) (orEmpty : Bool) (word : List Part)
  /-- What matches a pattern is cut off. -/
  | trim (atEnd longest : Bool) (pattern : List Part)
  /-- A use that cannot be understood; it is a fault only once it is met. -/
  | broken

inductive Redirection
  | mk (handle : Nat) (opening : Opening) (target : List Part)

inductive Command
  | nothing
  | simple (line : Nat) (assignments : List (Chars × List Part)) (words : List (List Part))
      (redirections : List Redirection)
  | redirected (line : Nat) (body : Command) (redirections : List Redirection)
  | inOrder (first second : Command)
  /-- The second only if the first ends well. -/
  | both (first second : Command)
  /-- The second only if the first fails. -/
  | either (first second : Command)
  | not (body : Command)
  | pipe (stages : List Command)
  /-- The body on its own, without waiting for its end. -/
  | aside (body : Command)
  /-- The body once for each item, or for each argument of the script. -/
  | each (line : Nat) (name : Chars) (items : Option (List (List Part))) (body : Command)
  /-- The body of the first branch with a pattern that matches. -/
  | select (line : Nat) (subject : List Part) (branches : List (List (List Part) × Command))
  | choose (condition yes no : Command)
  /-- The body as long as the condition ends well, or as long as it fails. -/
  | loop (holds : Bool) (condition body : Command)
  /-- The body in a shell of its own. -/
  | apart (line : Nat) (body : Command) (redirections : List Redirection)
  | define (name : Chars) (body : Command)

end

abbrev Word := List Part

instance : Inhabited Command := ⟨.nothing⟩
instance : Inhabited Part := ⟨.text true []⟩

/-- Why a text cannot be read as commands. -/
structure SyntaxFault where
  line : Nat
  message : String
  deriving DecidableEq, Repr

def isNameStart (c : Char) : Bool := c.isAlpha || c == '_'

def isNameChar (c : Char) : Bool := c.isAlphanum || c == '_'

/-- Whether a text can be the name of a variable. -/
def isName (cs : Chars) : Bool :=
  match cs with
  | [] => false
  | c :: rest => isNameStart c && rest.all isNameChar

def isSpecial (c : Char) : Bool := c.isDigit || "#@*?$!-".contains c

/-- A word in the form of an assignment: the name and the word for its value. -/
def assignment? (w : Word) : Option (Chars × Word) :=
  match w with
  | .text false cs :: parts =>
    let name := cs.takeWhile (· != '=')
    if isName name ∧ name.length < cs.length then
      let rest := cs.drop (name.length + 1)
      some (name, if rest = [] then parts else .text false rest :: parts)
    else none
  | _ => none

end CommandShell.Script
