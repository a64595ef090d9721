import CommandShell.Text.Quoted

/-!
# Arguments of the program

The program takes no arguments. It answers to `-h` and to `--help`, which may be cut short, with a
page of help; after two dashes nothing is an option any more.
-/
namespace CommandShell.Usage
open Text

/-- What the arguments ask for. -/
inductive Request
  | start
  | help
  | refuse (reason : String)
  deriving DecidableEq, Repr

def usageLine : String := "usage: pipeshell [-h]\n"

def helpPage : String :=
  usageLine ++ "\nInteractive shell with pipes and file redirection.\n\noptions:\n" ++
    "  -h, --help  show this help message and exit\n"

def complaint (reason : String) : String := usageLine ++ s!"pipeshell: error: {reason}\n"

def refusedCode : Int := 2

/-- A value was given to an option that takes none. -/
def unwantedValue (value : List Char) : Request :=
  .refuse ("argument -h/--help: ignored explicit argument " ++ quoted (String.ofList value))

/-- Letters that follow a short option: each must be the same option again. -/
def shortLetters : List Char → Request
  | [] => .help
  | 'h' :: rest => shortLetters rest
  | value => unwantedValue value

/-- A long option is known by any of its beginnings and takes no value. -/
def longOption (body : List Char) : Option Request :=
  let name := body.takeWhile (· != '=')
  if name.isPrefixOf "help".toList then
    match body.dropWhile (· != '=') with
    | [] => some .help
    | _ :: value => some (unwantedValue value)
  else none

/-- What a single argument asks for, if it is an option. -/
def option? (arg : String) : Option Request :=
  match arg.toList with
  | '-' :: '-' :: body => longOption body
  | ['-', 'h', '='] => some (unwantedValue [])
  | '-' :: 'h' :: '=' :: value => some (shortLetters value)
  | '-' :: 'h' :: rest => some (shortLetters rest)
  | _ => none

/-- The first option among the arguments; none is looked for after two dashes. -/
def firstOption : List String → Option Request
  | [] => none
  | arg :: rest =>
    if arg = "--" then none
    else
      match option? arg with
      | some r => some r
      | none => firstOption rest

/-- What the arguments ask for: the first option decides, and there is nothing else to give. -/
def read (args : List String) : Request :=
  match firstOption args with
  | some r => r
  | none =>
    if args = [] then .start
    else .refuse ("unrecognized arguments: " ++ String.intercalate " " args)

end CommandShell.Usage
