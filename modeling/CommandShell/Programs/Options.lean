import CommandShell.Programs.Toolbox

/-!
# Options and operands

The words after a tool's name. A word that starts with one hyphen holds options, one letter each; an
option with a value takes the rest of its word, or the next word if nothing is left. A word that
starts with two hyphens is one option, which may be cut short as long as it stays clear, with its
value behind an equals sign or in the next word. A word of two hyphens ends the options. A lone
hyphen is an operand.
-/
namespace CommandShell

/-- Whether an option has a value. -/
inductive Arity
  | plain
  | valued
  /-- With a value only if it stands in the same word. -/
  | optional
  deriving DecidableEq, Repr

/-- An option that is written as a word. Options of one key mean the same. -/
structure LongOption where
  name : String
  arity : Arity
  key : String
  deriving DecidableEq, Repr

structure OptionTable where
  letters : List (Char × Arity)
  words : List LongOption

/-- What an option is given with, if it has a value. -/
abbrev GivenOption := String × Option String

structure Options where
  given : List GivenOption
  operands : List String

/-- Why words cannot be told apart into options and operands. -/
inductive OptionFault
  | unknownLetter (letter : Char)
  | letterNeedsValue (letter : Char)
  | unknownWord (word : String)
  | unclearWord (word : String) (candidates : List String)
  | wordNeedsValue (word : String)
  | wordTakesNoValue (word : String)
  deriving DecidableEq, Repr

def OptionFault.message : OptionFault → String
  | unknownLetter c => s!"invalid option -- '{c}'"
  | letterNeedsValue c => s!"option requires an argument -- '{c}'"
  | unknownWord word => s!"unrecognized option '{word}'"
  | unclearWord word candidates =>
    s!"option '{word}' is ambiguous; possibilities:" ++
      String.join (candidates.map fun c => s!" '--{c}'")
  | wordNeedsValue word => s!"option '--{word}' requires an argument"
  | wordTakesNoValue word => s!"option '--{word}' doesn't allow an argument"

namespace OptionTable

/-- Reads letters; one colon behind a letter says that it has a value, two that it may have one. -/
def lettersOf : List Char → List (Char × Arity)
  | [] => []
  | c :: ':' :: ':' :: rest => (c, .optional) :: lettersOf rest
  | c :: ':' :: rest => (c, .valued) :: lettersOf rest
  | c :: rest => (c, .plain) :: lettersOf rest

/-- Reads a long option: its name, an equals sign if it has a value (in brackets if it may have
one), and behind a blank the key that it shares with others. -/
def wordOf (text : String) : LongOption :=
  match text.splitOn " " with
  | [] => ⟨text, .plain, text⟩
  | first :: rest =>
    let (name, arity) :=
      if first.endsWith "[=]" then (String.ofList (first.toList.take (first.length - 3)), .optional)
      else if first.endsWith "=" then
        (String.ofList (first.toList.take (first.length - 1)), .valued)
      else (first, Arity.plain)
    ⟨name, arity, rest.headD name⟩

def of (letters : String) (words : List String) : OptionTable :=
  ⟨lettersOf letters.toList, words.map wordOf⟩

end OptionTable

namespace Options

/-- The options of one word, and the one among them that still needs its value. -/
def ofCluster (table : OptionTable) :
    List Char → Except OptionFault (List GivenOption × Option Char)
  | [] => .ok ([], none)
  | c :: cs =>
    let key := c.toString
    match table.letters.lookup c with
    | none => .error (.unknownLetter c)
    | some .plain => (ofCluster table cs).map fun found => ((key, none) :: found.1, found.2)
    | some .optional => .ok ([(key, if cs = [] then none else some (String.ofList cs))], none)
    | some .valued =>
      if cs = [] then .ok ([], some c) else .ok ([(key, some (String.ofList cs))], none)

/-- What a word can stand for. -/
inductive Form
  | operand
  | ending
  | cluster (letters : List Char)
  | long (name : String) (value : Option String)

def formOf (word : String) : Form :=
  match word.toList with
  | ['-', '-'] => .ending
  | '-' :: '-' :: cs =>
    let name := cs.takeWhile (· ≠ '=')
    .long (String.ofList name)
      (if name.length = cs.length then none else some (String.ofList (cs.drop (name.length + 1))))
  | '-' :: c :: cs => .cluster (c :: cs)
  | _ => .operand

/-- The long option that a name stands for: the one of that name, or the only one of which it is the
beginning. -/
def longOf (table : OptionTable) (word name : String) : Except OptionFault LongOption :=
  match table.words.find? (·.name = name) with
  | some found => .ok found
  | none =>
    match table.words.filter fun l => name.toList.isPrefixOf l.name.toList with
    | [] => .error (.unknownWord word)
    | first :: rest =>
      if rest.all fun l => l.key = first.key ∧ l.arity = first.arity then .ok first
      else .error (.unclearWord word ((first :: rest).map LongOption.name))

/-- The word as it is shown in a complaint about its name. -/
def shownLong (name : String) : String := "--" ++ name

/-- Tells options from operands. Where `mixed` is false, the first operand ends the options. -/
def read (table : OptionTable) (mixed : Bool) : List String → Except OptionFault Options
  | [] => .ok ⟨[], []⟩
  | word :: rest =>
    let add (found : List GivenOption) (o : Options) : Options :=
      { o with given := found ++ o.given }
    match formOf word, rest with
    | .ending, rest => .ok ⟨[], rest⟩
    | .operand, rest =>
      if mixed then
        (read table mixed rest).map fun o => { o with operands := word :: o.operands }
      else .ok ⟨[], word :: rest⟩
    | .cluster cs, rest => do
      match ← ofCluster table cs, rest with
      | (found, none), rest => return add found (← read table mixed rest)
      | (_, some c), [] => throw (.letterNeedsValue c)
      | (found, some c), value :: rest =>
        return add (found ++ [(c.toString, some value)]) (← read table mixed rest)
    | .long name value, rest => do
      let found ← longOf table (shownLong name) name
      match found.arity, value, rest with
      | .plain, some _, _ => throw (.wordTakesNoValue found.name)
      | .plain, none, rest => return add [(found.key, none)] (← read table mixed rest)
      | .optional, value, rest => return add [(found.key, value)] (← read table mixed rest)
      | .valued, some value, rest =>
        return add [(found.key, some value)] (← read table mixed rest)
      | .valued, none, [] => throw (.wordNeedsValue found.name)
      | .valued, none, value :: rest =>
        return add [(found.key, some value)] (← read table mixed rest)

def has (o : Options) (key : String) : Bool := o.given.any (·.1 = key)

def hasAny (o : Options) (keys : List String) : Bool := o.given.any fun g => keys.contains g.1

/-- All values of an option, in order. -/
def values (o : Options) (key : String) : List String :=
  o.given.filterMap fun g => if g.1 = key then g.2 else none

def value? (o : Options) (key : String) : Option String := (o.values key).getLast?

def last? (o : Options) (keys : List String) : Option GivenOption :=
  (o.given.filter fun g => keys.contains g.1).getLast?

/-- The word that a text stands for: itself, or the only one of which it is the beginning. -/
def chosen? (words : List String) (text : String) : Option String :=
  if words.contains text then some text
  else
    match words.filter fun word => text.toList.isPrefixOf word.toList with
    | [word] => some word
    | _ => none

def lastKey? (o : Options) (keys : List String) : Option String := (o.last? keys).map Prod.fst

end Options

namespace Tool

/-- What is said about a tool that was called the wrong way. -/
def usageReports (name message : String) : List String :=
  [s!"{name}: {message}", s!"Try '{name} --help' for more information."]

/-- The end of a tool that was called the wrong way. -/
def misused (job : Job) (message : String) (status : Int) : ToolEnd :=
  .of (usageReports job.name message) .empty status job.input.bytes

/-- A tool with options; it ends with the status `refused` where it does not know one. -/
def withOptions (table : OptionTable) (refused : Int) (f : Options → Tool) : Tool := fun job w =>
  match Options.read table true job.args with
  | .error fault => (misused job fault.message refused, w)
  | .ok o => f o job w

def withLeadingOptions (table : OptionTable) (refused : Int) (f : Options → Tool) : Tool :=
  fun job w =>
    match Options.read table false job.args with
    | .error fault => (misused job fault.message refused, w)
    | .ok o => f o job w

end Tool
end CommandShell
