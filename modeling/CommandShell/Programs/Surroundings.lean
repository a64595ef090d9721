import CommandShell.Programs.Amount
import CommandShell.Programs.Waiting
import CommandShell.Programs.Progress
import CommandShell.Programs.Printing.Names

/-!
# Surroundings

The tools that tell of the surroundings of a program: its variables, its working folder, and who
runs it.
-/
namespace CommandShell.Surroundings

def succeed : Tool := .answer fun _ => ([], .empty, 0)

def fail : Tool := .answer fun _ => ([], .empty, 1)

def line (text : String) (status : Int) : Tool := .withOptions (.of "" []) 1 fun o job w =>
  match o.operands with
  | [] => (.of [] (Bytes.ofText (text ++ "\n")) status job.input.bytes, w)
  | extra :: _ => (Tool.misused job s!"extra operand {Naming.literal extra}" 1, w)

def user : String := "root"

def whoami : Tool := line user 0

def nproc : Tool := .withOptions (.of "" ["all", "ignore="]) 1 fun o job w =>
  match (o.values "ignore").findSome? fun text =>
      match Amount.within 0 Amount.largest "" text with
      | .ok _ => none
      | .error fault => some (Amount.refusal "number" text fault) with
  | some message => (Tool.failing job message 1, w)
  | none => (.of [] (Bytes.ofText "1\n") 0 job.input.bytes, w)

def tty : Tool := .withOptions (.of "s" ["silent s", "quiet s"]) 2 fun o job w =>
  (.of [] (if o.has "s" then .empty else Bytes.ofText "not a tty\n") 1 job.input.bytes, w)

def id : Tool :=
  .withOptions (.of "agGnruzZ" ["context Z", "group g", "groups G", "name n", "real r", "user u",
    "zero z"]) 1 fun o job w =>
    let known := o.operands.all (· = user)
    let text :=
      if o.hasAny ["u", "g", "G"] then (if o.has "n" then user else "0")
      else "uid=0(root) gid=0(root) groups=0(root)"
    let ending := if o.has "z" then "\x00" else "\n"
    if known then (.of [] (Bytes.ofText (text ++ ending)) 0 job.input.bytes, w)
    else (Tool.failing job "no such user" 1, w)

def groups : Tool := line user 0

def uname : Tool :=
  .withOptions (.of "asnrvmpio" ["all a", "kernel-name s", "machine m", "operating-system o"]) 1
    fun o job w =>
      let parts := (if o.given = [] ∨ o.has "s" then ["Linux"] else []) ++
        (if o.has "m" then ["x86_64"] else []) ++ (if o.has "o" then ["GNU/Linux"] else [])
      (.of [] (Bytes.ofText (String.intercalate " " parts ++ "\n")) 0 job.input.bytes, w)

def arch : Tool := line "x86_64" 0

/-- The text of the working folder: a variable names it where links are kept. -/
def pwd : Tool := .withOptions (.of "LP" ["logical L", "physical P"]) 1 fun o job w =>
  let named := (job.environment.lookup "PWD").filter fun text =>
    text.toList.head? = some '/' && !(text.toList.contains '.') &&
      (match w.follow text with
      | .ok (.folder place) => place == w.place
      | _ => false)
  let shown := if o.lastKey? ["L", "P"] = some "L" then named.or w.folderText else w.folderText
  match shown with
  | some text => (.of [] (Bytes.ofText (text ++ "\n")) 0 job.input.bytes, w)
  | none =>
    (Tool.failing job "couldn't find directory entry in '..' with matching i-node" 1, w)

/-- The values of variables, or all variables with their values. -/
def printenv : Tool := .withLeadingOptions (.of "0" ["null 0"]) 2 fun o job w =>
  let zero := o.has "0"
  if o.operands = [] then
    (.of [] (Names.lined zero (job.environment.map fun e =>
      e.1 ++ "=" ++ e.2)) 0 job.input.bytes, w)
  else
    let found := o.operands.map fun name => job.environment.lookup name
    (.of [] (Names.lined zero (found.filterMap fun v => v)) (if found.all Option.isSome then 0
      else 1)
      job.input.bytes, w)

/-- The number of lines that a reader can take before it stops reading. -/
def plenty : Nat := 4194304

def repeated (line : ByteArray) : ByteArray :=
  let count := plenty / max 1 line.size + 1
  count.fold (fun _ _ bytes => bytes ++ line) (.emptyWithCapacity (plenty + 2 * line.size))

/-- A line over and over. No reader waits for its end. -/
def yes : Tool := .withLeadingOptions (.of "" []) 1 fun o job w =>
  let words := if o.operands = [] then ["y"] else o.operands
  let line := Bytes.ofText (String.intercalate " " words ++ "\n")
  (.of [] (repeated line) 1 job.input.bytes, w)

end CommandShell.Surroundings
