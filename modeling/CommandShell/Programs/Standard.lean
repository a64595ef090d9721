import CommandShell.Programs.ByteSet
import CommandShell.Programs.Choosing
import CommandShell.Programs.Lines.Copies
import CommandShell.Programs.Lines.Pieces
import CommandShell.Programs.Lines.Counts
import CommandShell.Programs.Lines.Layout
import CommandShell.Programs.Lines.Sorting
import CommandShell.Programs.Lines.Neighbours
import CommandShell.Programs.Lines.Columns
import CommandShell.Programs.Launching.Commands
import CommandShell.Programs.Conditions
import CommandShell.Programs.Surroundings
import CommandShell.Starting
import CommandShell.Programs.Expressions
import CommandShell.Programs.Lines.Numbered
import CommandShell.Programs.Lines.Drawing
import CommandShell.Programs.Lines.Landmarks
import CommandShell.Programs.Lines.Paragraphs
import CommandShell.Programs.Lines.Precedence
import CommandShell.Programs.Coding.BaseText
import CommandShell.Programs.Coding.Blocks
import CommandShell.Programs.Coding.Dump
import CommandShell.Programs.Coding.Sums
import CommandShell.Programs.Printing.Echo
import CommandShell.Programs.Printing.Factors
import CommandShell.Programs.Printing.Names
import CommandShell.Programs.Printing.Printf
import CommandShell.Programs.Printing.Sequence
import CommandShell.Programs.Printing.Units
import CommandShell.Programs.Folders.Removing
import CommandShell.Programs.Folders.Making
import CommandShell.Programs.Folders.Moving
import CommandShell.Programs.Folders.Copying
import CommandShell.Programs.Folders.Links
import CommandShell.Programs.Folders.Facts
import CommandShell.Programs.Folders.Installing
import CommandShell.Programs.Folders.Listing
import CommandShell.Programs.Folders.Owners
import CommandShell.Programs.Folders.Room
import CommandShell.Programs.Folders.Temporary

/-!
# The standard toolbox

The tools that a shell finds by name, and what happens when a file is started instead: a file that
can run and names its interpreter is handed to it, and so is the interpreter if it is such a file
itself. A program may start others, down to a fixed depth.
-/
namespace CommandShell.Standard

def lineTools : List (String × Tool) :=
  [("cat", Copies.cat), ("comm", Neighbours.comm), ("csplit", Landmarks.csplit),
    ("cut", Columns.cut), ("egrep", Choosing.egrep), ("expand", Layout.expand),
    ("fgrep", Choosing.fgrep), ("fmt", Paragraphs.fmt), ("fold", Layout.fold),
    ("grep", Choosing.grep), ("head", Parts.head), ("join", Neighbours.join), ("nl", Numbered.nl),
    ("paste", Columns.paste), ("rev", Copies.rev), ("shuf", Drawing.shuf), ("sort", Sorting.sort),
    ("split", Pieces.split), ("tac", Copies.tac), ("tail", Parts.tail), ("tee", Copies.tee),
    ("tr", ByteSet.tr), ("tsort", Precedence.tsort), ("unexpand", Layout.unexpand),
    ("uniq", Neighbours.uniq), ("wc", Counts.wc)]

/-- The tools that write bytes in another notation, or sums of them. -/
def codingTools : List (String × Tool) :=
  [("b2sum", Sums.b2sum), ("base32", BaseText.tool BaseText.base32),
    ("base64", BaseText.tool BaseText.base64), ("basenc", BaseText.basenc), ("cksum", Sums.cksum),
    ("dd", Blocks.dd), ("md5sum", Sums.tool Sums.md5), ("od", Dump.od),
    ("sha1sum", Sums.tool Sums.sha1), ("sha224sum", Sums.tool Sums.sha224), ("sha256sum",
      Sums.tool Sums.sha256),
    ("sha384sum", Sums.tool Sums.sha384), ("sha512sum", Sums.tool Sums.sha512), ("sum", Sums.sum)]

/-- The tools that work on folders and on what lies in them. -/
def folderTools : List (String × Tool) :=
  [("chgrp", Owners.chgrp), ("chmod", Modes.chmod), ("chown", Owners.chown), ("cp", Copying.cp),
    ("dir", Listing.dir), ("du", Room.du), ("install", Installing.install), ("link", Links.link),
    ("ln", Links.ln), ("ls", Listing.ls), ("mkdir", Making.mkdir), ("mktemp", Temporary.mktemp),
    ("mv", Moving.mv), ("readlink", Links.readlink), ("realpath", Links.realpath),
    ("rm", Removing.rm), ("rmdir", Removing.rmdir), ("stat", Facts.stat), ("touch", Making.touch),
    ("truncate", Making.truncate), ("unlink", Removing.unlink), ("vdir", Listing.vdir)]

/-- The tools that print what their words and their surroundings say. -/
def wordTools : List (String × Tool) :=
  [("[", Conditions.bracket), ("arch", Surroundings.arch), ("basename", Names.basename),
    ("dirname", Names.dirname), ("echo", Echo.echo), ("expr", Expressions.expr),
    ("factor", Factors.factor), ("false", Surroundings.fail), ("groups", Surroundings.groups),
    ("id", Surroundings.id), ("nproc", Surroundings.nproc), ("numfmt", Units.numfmt),
    ("printenv", Surroundings.printenv), ("printf", Printf.printf), ("pwd", Surroundings.pwd),
    ("seq", Sequence.seq), ("sleep", Waiting.sleep), ("test", Conditions.test),
    ("true", Surroundings.succeed), ("tty", Surroundings.tty), ("uname", Surroundings.uname),
    ("whoami", Surroundings.whoami), ("yes", Surroundings.yes)]

def tools : List (String × Tool) := lineTools ++ codingTools ++ folderTools ++ wordTools

def names : List String := Launching.names ++ tools.map Prod.fst

def knows (name : String) : Bool := names.contains name

def tool? (launch : Launcher) (name : String) : Option Tool :=
  (Launching.tools launch).lookup name |>.or (tools.lookup name)

/-! ## Files as programs -/

/-- The name of the tool that stands at a location, whether or not a file stands for it. -/
def toolName? : Location → Option String
  | ["bin", name] => if knows name then some name else none
  | ["usr", "bin", name] => if knows name then some name else none
  | _ => none

/-- What can be started: a tool, or a file that may say how. -/
inductive Executable
  | tool (name : String)
  | file (bytes : ByteArray)

/-- What a path leads to, if it can be started; an empty one leads to the working folder. -/
def Executable.find (w : World) (path : String) : Except FileFault Executable :=
  match w.follow (if path = "" then "." else path) with
  | .error fault => .error fault
  | .ok (.folder _) => .error .denied
  | .ok (.link ..) => .error .tooManyLinks
  | .ok (.device ..) => .error .denied
  | .ok (.free l) =>
    match toolName? l with
    | some name => .ok (.tool name)
    | none => .error .notFound
  | .ok (.file l f) =>
    match toolName? l with
    | some name => .ok (.tool name)
    | none => if f.runnable then .ok (.file f.bytes) else .error .denied

/-- How many bytes at the front of a file say how it is started. -/
def headSize : Nat := 256

def isGap (b : UInt8) : Bool := b == 32 || b == 9

def endsWord (b : UInt8) : Bool := isGap b || b == 0

/-- The first line of a file, behind the two signs that open it. A line without an end is cut off,
and one that is cut off within its first word says nothing; zeros stand behind a short file. -/
def openingLine? (bytes : ByteArray) : Option (List UInt8) :=
  match (Bytes.slice bytes 0 headSize).toList with
  | 35 :: 33 :: rest =>
    if rest.contains Bytes.lineFeed then some (rest.takeWhile (· ≠ Bytes.lineFeed))
    else
      let padded := rest ++ List.replicate (headSize - 2 - rest.length) 0
      if (padded.dropWhile isGap).any endsWord then some padded.dropLast else none
  | _ => none

/-- The interpreter that a file names, and a word for it; none if the file names none. -/
def interpreter? (bytes : ByteArray) : Option (String × Option String) :=
  (openingLine? bytes).bind fun line =>
    let trimmed := (line.reverse.dropWhile isGap).reverse.dropWhile isGap
    let path := trimmed.takeWhile (!endsWord ·)
    let text (word : List UInt8) : String :=
      Script.textOf (Script.charsOf (word.takeWhile (· ≠ 0)).toByteArray)
    match trimmed, trimmed.drop path.length with
    | [], _ => none
    | _, [] => some (text path, none)
    | _, b :: rest => some (text path, if b = 0 then none else some (text (rest.dropWhile isGap)))

/-- How many files can stand behind one another, each the interpreter of the one before. -/
def longestChain : Nat := 6

/-- The tool with which a path is started and the words of its command line: each interpreter is
given the path of the file that names it. -/
def resolve (w : World) :
    Nat → String → List String → Except FileFault (String × List String)
  | 0, path, _ => (Executable.find w path).bind fun _ => .error .tooManyLinks
  | more + 1, path, argv =>
    match Executable.find w path with
    | .error fault => .error fault
    | .ok (.tool name) => .ok (name, argv)
    | .ok (.file bytes) =>
      match interpreter? bytes with
      | none => .error .badFormat
      | some (interpreter, word) =>
        resolve w more interpreter (interpreter :: word.toList ++ path :: argv.drop 1)

/-! ## Starting -/

/-- The length of a word that is too long for a program, in bytes. -/
def longWord : Nat := 131072

/-- Whether the words and variables of a program are short enough each. -/
def areShort (argv : List String) (environment : List (String × String)) : Bool :=
  argv.all (·.utf8ByteSize + 1 ≤ longWord) &&
    environment.all fun e => e.1.utf8ByteSize + e.2.utf8ByteSize + 2 ≤ longWord

/-- Starts programs; `depth` bounds how many programs start one another. -/
def launchWithin : Nat → Launcher
  | 0 => ⟨fun _ _ => .error .notFound, fun _ _ w => (.error .notFound, w)⟩
  | depth + 1 =>
    { check := fun w path => (Executable.find w path).map fun _ => ()
      start := fun path job w =>
        match resolve w longestChain path (job.name :: job.args) with
        | .error fault => (.error fault, w)
        | .ok (name, argv) =>
          match tool? (launchWithin depth) name with
          | none => (.error .notFound, w)
          | some tool =>
            if areShort argv job.environment then
              let (e, w) := tool { job with name := argv.headD "", args := argv.drop 1 } w
              (.ok e, w)
            else (.error .argumentTooLong, w) }

def depth : Nat := 1000

def launch : Launcher := launchWithin depth

/-- Starts the standard tools; the shell's own input is empty. No word can hold a null character. A
program is looked for in all folders; the first fault counts that does not say that it is
missing. -/
def start (environment : List (String × String)) : Starter := fun program args stdin w =>
  if (program :: args).any (·.toList.contains '\x00') then (.error .nullCharacter, w)
  else
    let paths := Launching.pathsOf (Launching.foldersOf environment) program
    let job : Job := ⟨program, args, environment, stdin.input, none⟩
    match Launching.tryPaths (launch.start · job) (fun _ => true) paths w with
    | (.ok e, w) => (.ok (.ofTool stdin e), w)
    | (.error faults, w) =>
      let last := faults.getLast?.getD .notFound
      let fault := (faults.find? (!·.isMissing)).getD last
      (.error (.system (.file fault (some program))), w)

def spawner (environment : List (String × String)) : Spawner := .ofStarter (start environment)

end CommandShell.Standard
