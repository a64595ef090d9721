import CommandShell.Programs.Printing.Names
import CommandShell.Programs.Script.Runner
import CommandShell.Programs.Waiting

/-!
# Tools that start programs

Tools that run the program that their operands name, in other surroundings or for a limited time.
Nothing takes time here, so that only a program that sleeps can run for too long.
-/
namespace CommandShell.Launching

/-- What some tools say about a program that cannot be started. -/
def notRun : String := "failed to run command "

/-- The status of a tool that was called the wrong way, or could not start anything. -/
def refused : Nat := 125

/-- The status of a tool that could not start a program. -/
def unstarted : FileFault → Nat
  | .notFound => 127
  | _ => 126

/-- The folders in which programs are looked for where no variable names some. -/
def fewFolders : String := "/bin:/usr/bin"

/-- Where a program is looked for that the variables do not lead to otherwise. -/
def foldersOf (environment : List (String × String)) : String :=
  (environment.lookup "PATH").getD fewFolders

def isPassed (fault : FileFault) : Bool := fault.isMissing || fault = .denied

/-- The fault that counts: one that may not be passed over, then a denial, then the last one. -/
def decisive (faults : List FileFault) : FileFault :=
  match faults.getLast? with
  | none => .notFound
  | some fault => if isPassed fault && faults.contains .denied then .denied else fault

/-- Starts a program, or says why that cannot be done; `said` stands in front of its name then. -/
def runWith (l : Launcher) (said : String) (job : Job) (environment : List (String × String))
    (argv : List String) (w : World) : ToolEnd × World :=
  let word := argv.headD ""
  let paths := if word = "" then [] else pathsOf (foldersOf environment) word
  let inner := { job with name := word, args := argv.drop 1, environment }
  match tryPaths (startOrRead l inner) isPassed paths w with
  | (.ok e, w) => (e, w)
  | (.error faults, w) =>
    let fault := decisive faults
    (Tool.failing job s!"{said}{Naming.always word}: {fault.wording}" (unstarted fault), w)

/-! ## Other surroundings -/

/-- Gives a variable a value; a new one stands last. -/
def assign (environment : List (String × String)) (name value : String) : List (String × String) :=
  if environment.any (·.1 = name) then
    environment.map fun e => if e.1 = name then (name, value) else e
  else environment ++ [(name, value)]

def assignment? (word : String) : Option (String × String) :=
  let name := word.toList.takeWhile (· != '=')
  if name.length < word.length then
    some (String.ofList name, String.ofList (word.toList.drop (name.length + 1)))
  else none

def splitWords (text : String) : List String :=
  ((Text.cut (fun c => c == ' ' || c == '\t') text.toList).filter (· ≠ [])).map String.ofList

/-- The words with the option for a whole command line taken apart. -/
def withSplit : List String → List String
  | "-S" :: text :: rest => splitWords text ++ rest
  | word :: rest =>
    match word.toList with
    | '-' :: 'S' :: text => splitWords (String.ofList text) ++ rest
    | '-' :: 'v' :: 'S' :: text => splitWords (String.ofList text) ++ rest
    | _ => word :: rest
  | [] => []

def envTable : OptionTable :=
  .of "iu:0C:v" ["ignore-environment i", "unset= u", "null 0", "chdir= C", "debug v",
    "block-signal[=]", "default-signal[=]", "ignore-signal[=]", "list-signal-handling"]

/-- Runs a program in a working folder, and comes back. -/
def runIn (folder : Option String) (job : Job) (run : World → ToolEnd × World) (w : World) :
    ToolEnd × World :=
  match folder with
  | none => run w
  | some text =>
    let failed (fault : FileFault) : ToolEnd × World :=
      (.of [s!"{job.name}: cannot change directory to {Naming.always text}: {fault.wording}"] .empty
        refused job.input.bytes, w)
    match w.follow text with
    | .error fault => failed fault
    | .ok (.folder place) =>
      let (e, after) := run { w with place, waiting := w.place :: w.waiting }
      (e, { after with place := after.waiting.headD w.place, waiting := after.waiting.drop 1 })
    | .ok (.free _) => failed .notFound
    | .ok _ => failed .notFolder

def runIgnoring (ignored : List Nat) (run : World → ToolEnd × World) (w : World) :
    ToolEnd × World :=
  let (e, after) := run { w with ignored }
  (e, { after with ignored := w.ignored })

/-- The signals that an option names, which are all if it names none. -/
def signalsOf : Option String → Except String (List Nat)
  | none => .ok ((List.range Signal.last).map (· + 1))
  | some text =>
    (text.splitOn ",").mapM fun word =>
      match Signal.numberOf? word with
      | some 0 => .error s!"{Naming.always word}: invalid signal"
      | some n =>
        if Signal.stubborn.contains n then
          .error s!"failed to set signal action for signal {n}: Invalid argument"
        else .ok n
      | none => .error s!"{Naming.always word}: invalid signal"

/-- The signals that are not answered after options have been read. -/
def ignoredAfter (o : Options) (ignored : List Nat) : Except String (List Nat) :=
  o.given.foldlM (fun ignored g => do
    match g.1 with
    | "default-signal" =>
      let signals ← signalsOf g.2
      return ignored.filter (!signals.contains ·)
    | "ignore-signal" => return (← signalsOf g.2) ++ ignored
    | "block-signal" => return (← signalsOf g.2) ++ ignored
    | _ => return ignored) ignored

def env (l : Launcher) : Tool := fun job w =>
  let read : Except String (Options × List Nat) := do
    let o ← (Options.read envTable false (withSplit job.args)).mapError OptionFault.message
    return (o, ← ignoredAfter o w.ignored)
  match read with
  | .error message => (Tool.misused job message refused, w)
  | .ok (o, ignored) =>
    let bare := o.operands.head? = some "-"
    let words := if bare then o.operands.drop 1 else o.operands
    let start := if bare || o.has "i" then [] else job.environment
    let removed := o.values "u"
    match removed.find? fun name => name = "" ∨ name.toList.contains '=' with
    | some name =>
      (Tool.failing job s!"cannot unset {Naming.always name}: Invalid argument" refused, w)
    | none =>
      let kept := start.filter fun e => !removed.contains e.1
      let assignments := words.takeWhile fun word => (assignment? word).isSome
      let environment := (assignments.filterMap assignment?).foldl
        (fun vs e => assign vs e.1 e.2) kept
      match words.drop assignments.length with
      | [] =>
        if (o.value? "C").isSome then
          (Tool.misused job "must specify command with --chdir (-C)" refused, w)
        else
          let shown := environment.map fun e => e.1 ++ "=" ++ e.2
          (.of [] (Names.lined (o.has "0") shown) 0 job.input.bytes, w)
      | argv =>
        if o.has "0" then
          (Tool.misused job "cannot specify --null (-0) with command" refused, w)
        else runIn (o.value? "C") job (runIgnoring ignored (runWith l "" job environment argv)) w

/-! ## Limited time -/

/-- The end of a tool that only points to its help. -/
def puzzled (job : Job) : ToolEnd :=
  .of [s!"Try '{job.name} --help' for more information."] .empty refused job.input.bytes

/-- Runs a program and ends it when its time is up. -/
def timeout (l : Launcher) : Tool :=
  .withLeadingOptions (.of "k:s:vf" ["kill-after= k", "signal= s", "verbose v", "foreground f",
    "preserve-status p"]) refused fun o job w =>
    let invalid (what word : String) : ToolEnd × World :=
      (Tool.misused job s!"invalid {what} {Naming.always word}" refused, w)
    match (o.values "k").find? fun t => (Waiting.span? t).isNone with
    | some text => invalid "time interval" text
    | none =>
      match Signal.numberOf? ((o.value? "s").getD "TERM") with
      | none =>
        let name := Naming.always ((o.value? "s").getD "")
        (Tool.misused job s!"{name}: invalid signal" refused, w)
      | some signal =>
        match o.operands with
        | [] => (puzzled job, w)
        | [_] => (puzzled job, w)
        | text :: argv =>
          match Waiting.span? text with
          | none => invalid "time interval" text
          | some span =>
            let (e, after) := runWith l notRun job job.environment argv w
            let limited := !span.same (.ofInt 0) && span.less (Waiting.sleepOf argv) && e.status = 0
            if !limited then (e, after)
            else
              let status : Int := if signal = 9 then -9
                else if o.has "p" then 128 + (signal : Int)
                else 124
              ({ e with status }, after)

/-! ## Other ways to run -/

def adjustment? (word : String) : Option Int := Amount.whole? word

/-- The words with an old way to write an adjustment made an option. -/
def withAdjustment : List String → List String
  | word :: rest =>
    match word.toList with
    | '-' :: c :: cs =>
      if c.isDigit ∨ ((c = '-' ∨ c = '+') ∧ (cs.head?.map Char.isDigit).getD false) then
        "-n" :: String.ofList (c :: cs) :: rest
      else word :: rest
    | _ => word :: rest
  | [] => []

/-- Runs a program at another priority, or tells the present one. -/
def nice (l : Launcher) : Tool := fun job w =>
  match Options.read (.of "n:" ["adjustment= n"]) false (withAdjustment job.args) with
  | .error fault => (Tool.misused job fault.message refused, w)
  | .ok o =>
    match (o.values "n").find? fun t => (adjustment? t).isNone with
    | some text =>
      (.of [s!"{job.name}: invalid adjustment {Naming.always text}"] .empty refused
        job.input.bytes, w)
    | none =>
      match o.operands with
      | [] =>
        if o.has "n" then (Tool.misused job "a command must be given with an adjustment" refused, w)
        else (.of [] (Bytes.ofText "0\n") 0 job.input.bytes, w)
      | argv => runWith l "" job job.environment argv w

def nohup (l : Launcher) : Tool :=
  .withLeadingOptions (.of "" []) refused fun o job w =>
    match o.operands with
    | [] => (Tool.misused job "missing operand" refused, w)
    | argv =>
      runIgnoring (Signal.hangup :: w.ignored) (runWith l notRun job job.environment argv) w

/-- Runs a program with other ways to gather what it writes. -/
def stdbuf (l : Launcher) : Tool :=
  .withLeadingOptions (.of "i:o:e:" ["input= i", "output= o", "error= e"]) refused fun o job w =>
    let size? (text : String) : Option Nat :=
      if text = "L" then some 0 else Amount.read? "KkMGTPEZY0" text
    let isMode (text : String) : Bool := (size? text).any (· ≤ Amount.largest)
    match (o.given.filterMap Prod.snd).find? (!isMode ·) with
    | some text =>
      let why := if (size? text).isSome then ": Value too large for defined data type" else ""
      (.of [s!"{job.name}: invalid mode {Naming.always text}{why}"] .empty refused
        job.input.bytes, w)
    | none =>
      match o.operands with
      | [] => (Tool.misused job "missing operand" refused, w)
      | argv =>
        if o.given = [] then
          (Tool.misused job "you must specify a buffering mode option" refused, w)
        else runWith l notRun job job.environment argv w

def which (l : Launcher) : Tool := fun job w =>
  match Options.read (.of "as" []) false job.args with
  | .error fault =>
    let path := if job.name.toList.contains '/' then job.name else "/usr/bin/" ++ job.name
    let letter := match fault with
      | .unknownLetter c => c
      | _ => '-'
    (.of [s!"Illegal option -{letter}"] (Bytes.ofText s!"Usage: {path} [-as] args\n") 2
      job.input.bytes, w)
  | .ok o =>
    let folders := (job.environment.lookup "PATH").getD Script.usualFolders
    let named := (folders.splitOn ":").map fun folder => if folder = "" then "." else folder
    let paths (name : String) : List String :=
      if folders = "" && !name.toList.contains '/' then []
      else pathsOf (String.intercalate ":" named) name
    let found := o.operands.map fun name => (paths name).filter fun p => (l.check w p).isOk
    let shown := found.flatMap fun ps => if o.has "a" then ps else ps.take 1
    let shown := if o.has "s" then [] else shown
    (.of [] (Names.lined false shown) (if found.all (· ≠ []) ∧ found ≠ [] then 0 else 1)
      job.input.bytes, w)

/-- The tools that start programs, or look for them. -/
def tools (l : Launcher) : List (String × Tool) :=
  [("sh", Script.sh l), ("dash", Script.sh l), ("env", env l), ("timeout", timeout l),
    ("nice", nice l), ("nohup", nohup l), ("stdbuf", stdbuf l), ("which", which l)]

def names : List String :=
  ["sh", "dash", "env", "timeout", "nice", "nohup", "stdbuf", "which"]

end CommandShell.Launching
