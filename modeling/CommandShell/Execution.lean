import CommandShell.Registry
import CommandShell.Run
import CommandShell.Text.Lines
import CommandShell.Text.Utf8

/-!
# Running a pipeline

A single stage and a chain run apart. Builtins are called in place; in a chain a builtin neither
reads what comes before it nor feeds what comes after, so the next program starts with an empty
input. Every other stage goes to the spawner, and its output to the next one. What the last program
wrote is decoded at the very end, and only then are the targets of a clause opened.
-/
namespace CommandShell
open Text

/-- What a line gives back. -/
structure Result where
  stdout : String
  stderr : String
  exitCode : Int
  deriving DecidableEq, Repr

inductive Outcome
  | finished (result : Result)
  | left (escape : Escape)
  deriving DecidableEq, Repr

/-- The exit code when a program cannot be started. -/
def spawnFailed : Int := 127

/-- The exit code when a source, a target or the output cannot be used. -/
def streamFailed : Int := 1

namespace Outcome

/-- Diagnostics alone, one to a line, under a code of failure. -/
def aborted (messages : List String) (code : Int) : Outcome :=
  .finished ⟨"", unlines messages, code⟩

end Outcome

/-! ## Diagnostics -/

def ignoredInput (source : Path) (command : String) : String :=
  s!"input from {source} is ignored by builtin {quoted command}"

def chainBroken (command : String) : String :=
  s!"builtin {quoted command} breaks the pipe chain; " ++
    "it runs on its own and the next stage starts fresh"

def builtinFailed (command reason : String) : String := s!"{command} failed: {reason}"

def unreadable (source : Path) (error : SystemError) : String :=
  s!"{source}: cannot read input: {error.reason}"

def unwritable (target : Path) (error : SystemError) : String :=
  s!"{target}: cannot write output: {error.reason}"

def undecodable (fault : Utf8.Fault) : String :=
  s!"could not decode command output as UTF-8: {fault.reason.message}"

/-! ## Sources and targets -/

/-- What keeps a stage from going on. -/
inductive StageFault
  | refused (message : String)
  | streamFault (message : String)
  | left (escape : Escape)
  deriving DecidableEq, Repr

/-- The outcome of a fault, after the diagnostics that came before it. -/
def StageFault.outcome (messages : List String) : StageFault → Outcome
  | refused message => .aborted (messages ++ [message]) spawnFailed
  | streamFault message => .aborted (messages ++ [message]) streamFailed
  | left escape => .left escape

/-- A source that the host does not open is reported; any other fault goes through. -/
def sourceFault (source : Path) : Escape → StageFault
  | .system error => .streamFault (unreadable source error)
  | escape => .left escape

/-- Only the first target of an input clause is read. -/
def Clause.source? (c : Clause) : Except Escape Path :=
  match c.targets with
  | [] => .error .targetMissing
  | source :: _ => .ok source

/-- The source of an input clause; other clauses have none. -/
def inputSource : Option Clause → Except Escape (Option Path)
  | none => .ok none
  | some c => if c.op = .input then c.source?.map some else .ok none

def Clause.mode (c : Clause) : WriteMode := if c.op = .output then .replace else .extend

/-- Writes to the targets one after the other, with a message for each that the host refuses. -/
def writeAll (mode : WriteMode) (bytes : ByteArray) :
    List Path → Run → Except Escape (List String) × Run
  | [], r => (.ok [], r)
  | target :: rest, r =>
    let opened := r.world.opens target
    match r.world.write mode target bytes with
    | (.ok (), w) => writeAll mode bytes rest { r.log (.openTarget target opened) with world := w }
    | (.error (.system error), w) =>
      match writeAll mode bytes rest { r.log (.openTarget target opened) with world := w } with
      | (.ok messages, r) => (.ok (unwritable target error :: messages), r)
      | (.error e, r) => (.error e, r)
    | (.error e, w) => (.error e, { r.log (.openTarget target opened) with world := w })

def Clause.writeTargets (c : Clause) (text : String) (r : Run) :
    Except Escape (List String) × Run :=
  writeAll c.mode text.toByteArray c.targets r

def Clause.readSource (c : Clause) (r : Run) : Except StageFault ByteArray × Run :=
  match c.source? with
  | .error e => (.error (.left e), r)
  | .ok source =>
    match r.readSource source with
    | (.ok bytes, r) => (.ok bytes, r)
    | (.error e, r) => (.error (sourceFault source e), r)

/-! ## Delivery -/

/-- Hands the output of the last program over, as text or to the targets of the clause. -/
def deliver (raw : ByteArray) (code : Int) (clause : Option Clause) (messages : List String)
    (r : Run) : Outcome × Run :=
  match Utf8.decode raw with
  | .error fault => (.aborted (messages ++ [undecodable fault]) streamFailed, r)
  | .ok text =>
    match clause with
    | none => (.finished ⟨text, unlines messages, code⟩, r)
    | some c =>
      if c.op = .input then (.finished ⟨text, unlines messages, code⟩, r)
      else
        match c.writeTargets text (r.log (.deliver text.length c.targets)) with
        | (.error e, r) => (.left e, r)
        | (.ok [], r) => (.finished ⟨"", unlines messages, code⟩, r)
        | (.ok failures, r) => (.aborted (messages ++ failures) streamFailed, r)

section
variable (reg : Registry Handler) (spawner : Spawner)

/-- Checks a source that a builtin is not going to read. -/
def checkIgnored (source : Path) (command : String) (r : Run) :
    Except StageFault (List String) × Run :=
  match r.readSource source with
  | (.ok _, r) => (.ok [ignoredInput source command], r)
  | (.error e, r) => (.error (sourceFault source e), r)

/-- The notice about an input clause in front of a builtin; no source, no notice. -/
def noticeIgnored (source : Option Path) (command : String) (r : Run) :
    Except StageFault (List String) × Run :=
  match source with
  | none => (.ok [], r)
  | some source => checkIgnored source command r

/-- Calls a builtin; a failure becomes a message. -/
def callBuiltin (handler : Handler) (stage : Stage) (r : Run) :
    Except Escape (List String) × Run :=
  match r.call handler stage with
  | (.done, r) => (.ok [], r)
  | (.failed reason, r) => (.ok [builtinFailed stage.command reason], r)
  | (.left e, r) => (.error e, r)

/-! ## A single stage -/

def runBuiltin (handler : Handler) (stage : Stage) (r : Run) : Outcome × Run :=
  match inputSource stage.clause with
  | .error e => (.left e, r)
  | .ok source =>
    match noticeIgnored source stage.command r with
    | (.error fault, r) => (fault.outcome [], r)
    | (.ok notices, r) =>
      match callBuiltin handler stage r with
      | (.error e, r) => (.left e, r)
      | (.ok failures, r) => deliver .empty 0 stage.clause (notices ++ failures) r

/-- What a program on its own reads: the source of its clause, else what the shell reads. -/
def singleInput (clause : Option Clause) (r : Run) : Except StageFault Stdin × Run :=
  match clause with
  | none => (.ok .inherited, r)
  | some c =>
    if c.op = .input then
      match c.readSource r with
      | (.ok bytes, r) => (.ok (.fed bytes), r)
      | (.error fault, r) => (.error fault, r)
    else (.ok .inherited, r)

/-- How many bytes a program is fed. -/
def Stdin.feed : Stdin → Option Nat
  | .fed bytes => some bytes.size
  | _ => none

/-- A spawner's refusal is reported, anything else goes through. -/
def spawnFault : SpawnFault → StageFault
  | .refused program reason => .refused (SpawnFault.refused program reason).message
  | .escaped e => .left e

/-- Feeds a started program, reads it to its end and hands over what has been collected. -/
def collect (number : Nat) (process : Process) (feed : Option Nat) (clause : Option Clause)
    (r : Run) : Outcome × Run :=
  let r := r.log (.communicate number feed)
  match process.collected with
  | none => (.left .outputMissing, r.log (.uncollected number))
  | some raw => deliver raw process.status clause [] r

def runProgram (stage : Stage) (r : Run) : Outcome × Run :=
  match singleInput stage.clause r with
  | (.error fault, r) => (fault.outcome [], r)
  | (.ok stdin, r) =>
    match r.spawn spawner (reg.argv stage.command stage.args) stdin with
    | (.error fault, r) => ((spawnFault fault).outcome [], r)
    | (.ok (number, process), r) => collect number process stdin.feed stage.clause r

def runSingle (stage : Stage) (r : Run) : Outcome × Run :=
  match reg.builtin? stage.command with
  | some handler => runBuiltin handler stage r
  | none => runProgram reg spawner stage r

/-! ## A chain -/

/-- A chain under way: the diagnostics so far, the programs started in this chain, and the last
stage if it was a program. -/
structure Chain where
  run : Run
  messages : List String
  started : List Nat
  previous : Option (Nat × Process)

/-- The output handle that is still open, with what can be read from it. -/
def Chain.pending (c : Chain) : Option (Nat × ByteArray) :=
  match c.previous with
  | some (number, ⟨some bytes, _, _, _⟩) => some (number, bytes)
  | _ => none

/-- Starts a program on what is handed to it; the shell's own copy of the handle is closed whether
the program starts or not. -/
def spawnHandoff (argv : List String) (earlier : Nat) (bytes : ByteArray) (r : Run) :
    Except StageFault (Nat × Process) × Run :=
  match r.spawn spawner argv (.handoff earlier bytes) with
  | (.ok started, r) => (.ok started, r.log (.closeStdout earlier))
  | (.error fault, r) => (.error (spawnFault fault), r.log (.closeStdout earlier))

/-- Starts a program on an opened file. A host error from below counts as a fault of the file,
which is open around the start. -/
def spawnSource (argv : List String) (source : Path) (r : Run) :
    Except StageFault (Nat × Process) × Run :=
  match r.openSource source with
  | (.error e, r) => (.error (sourceFault source e), r)
  | (.ok bytes, r) =>
    match r.spawn spawner argv (.source (r.world.identity? source) bytes) with
    | (.ok started, r) => (.ok started, r.log (.closeSource source))
    | (.error (.refused program reason), r) =>
      (.error (spawnFault (.refused program reason)), r.log (.closeSource source))
    | (.error (.escaped e), r) => (.error (sourceFault source e), r.log (.closeSource source))

/-- Starts a program on a pipe that is closed at once. -/
def spawnFresh (argv : List String) (r : Run) : Except StageFault (Nat × Process) × Run :=
  match r.spawn spawner argv (.fed .empty) with
  | (.ok started, r) =>
    (.ok started, if started.2.hasInput then r.log (.closeStdin started.1) else r)
  | (.error fault, r) => (.error (spawnFault fault), r)

def spawnStage (argv : List String) (pending : Option (Nat × ByteArray)) (source : Option Path)
    (r : Run) : Except StageFault (Nat × Process) × Run :=
  match pending, source with
  | some (earlier, bytes), _ => spawnHandoff spawner argv earlier bytes r
  | none, some source => spawnSource spawner argv source r
  | none, none => spawnFresh spawner argv r

def Chain.step (c : Chain) (source : Option Path) (stage : Stage) :
    Except (Outcome × Run) Chain :=
  match reg.builtin? stage.command with
  | some handler =>
    let r := match c.pending with
      | some (number, _) => c.run.log (.closeStdout number)
      | none => c.run
    match callBuiltin handler stage r with
    | (.error e, r) => .error (.left e, r)
    | (.ok failures, r) =>
      .ok ⟨r, c.messages ++ chainBroken stage.command :: failures, c.started, none⟩
  | none =>
    match spawnStage spawner (reg.argv stage.command stage.args) c.pending source c.run with
    | (.error fault, r) => .error (fault.outcome c.messages, r)
    | (.ok started, r) => .ok ⟨r, c.messages, c.started ++ [started.1], some started⟩

/-- Dispatches the stages in order. Only the first one sees the source. -/
def Chain.steps (c : Chain) (source : Option Path) :
    List Stage → Except (Outcome × Run) Chain
  | [] => .ok c
  | stage :: rest =>
    match c.step reg spawner source stage with
    | .error halted => .error halted
    | .ok c => c.steps none rest

/-- Reads the last program to its end, closes its output and waits for it. -/
def drain (number : Nat) (process : Process) (r : Run) : ByteArray × Run :=
  match process.output with
  | none => (.empty, r.log (.wait number))
  | some bytes => (bytes, r.logAll [.readStdout number, .closeStdout number, .wait number])

/-- The last program is read and waited for first, then the others are waited for in order. -/
def Chain.finish (c : Chain) (clause : Option Clause) : Outcome × Run :=
  match c.previous with
  | none => deliver .empty 0 clause c.messages (c.run.logAll (c.started.map .wait))
  | some (number, process) =>
    let drained := drain number process c.run
    deliver drained.1 process.status clause c.messages
      (drained.2.logAll ((c.started.filter (· ≠ number)).map .wait))

/-- The notice about an input clause when the first stage is a builtin. -/
def noticeFirst (first : Stage) (source : Option Path) (r : Run) :
    Except StageFault (List String) × Run :=
  if reg.isBuiltin first.command then noticeIgnored source first.command r else (.ok [], r)

def runChain (first : Stage) (rest : List Stage) (clause : Option Clause) (r : Run) :
    Outcome × Run :=
  match inputSource clause with
  | .error e => (.left e, r)
  | .ok source =>
    match noticeFirst reg first source r with
    | (.error fault, r) => (fault.outcome [], r)
    | (.ok notices, r) =>
      match Chain.steps reg spawner ⟨r, notices, [], none⟩ source (first :: rest) with
      | .error halted => halted
      | .ok c => c.finish clause

def execute (p : Pipeline) (r : Run) : Outcome × Run :=
  let r := r.log (.execute p.stages)
  match p.stages, p.stages_ne_nil with
  | [], h => absurd rfl h
  | [stage], _ => runSingle reg spawner stage r
  | first :: rest, _ => runChain reg spawner first rest p.clause r

end
end CommandShell
