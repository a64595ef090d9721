import CommandShell.Programs.Script.Lookup
import CommandShell.Programs.Script.Sum

/-!
# Running scripts

The commands of a script run one after the other in a state of their own. The stages of a pipeline
run one after the other too, each on all that the one before has written, and so does what runs
aside. Every function that runs commands is given `fuel`, which bounds how deep it goes.
-/
namespace CommandShell.Script
open Bytes

/-! ## Redirections -/

def handleOfPath? (text : String) : Option Nat :=
  match text with
  | "/dev/stdin" => some 0
  | "/dev/stdout" => some 1
  | "/dev/stderr" => some 2
  | text =>
    let bare := if text.startsWith "/dev/fd/" then text.toList.drop 8
      else if text.startsWith "/proc/self/fd/" then text.toList.drop 14
      else []
    if bare ≠ [] ∧ bare.all Char.isDigit then some (readDigits bare) else none

def openComplaint (creating : Bool) (text : String) (fault : FileFault) : String :=
  let reason := match fault with
    | .notFound => if creating then "Directory nonexistent" else "No such file"
    | .notFolder => if creating then "Directory nonexistent" else "No such file"
    | fault => fault.wording
  let verb := if creating then "create" else "open"
  s!"cannot {verb} {text}: {reason}"

/-- The channel of a path that has been opened, and the world after it. -/
def openFile (opening : Opening) (text : String) (s : State) : Except FileFault (Channel × World) :=
  let w := s.world
  let opened (w : World) : Except FileFault (Channel × World) :=
    match w.follow text with
    | .error fault => .error fault
    | .ok (.file _ f) => .ok (.file f.identity 0 (opening = .extend), w)
    | .ok (.device _ d) => d.opened.map fun d => (.device d, w)
    | .ok (.folder _) => .ok (.folder, w)
    | .ok (.link ..) => .error .tooManyLinks
    | .ok (.free _) => .error .notFound
  match opening with
  | .read => opened w
  | .extend => do opened (← w.save .extend text .empty)
  | .readWrite => do opened (← w.save .extend text .empty)
  | .replace =>
    match s.hasOption 'C', w.follow text with
    | true, .ok (.file ..) => .error .alreadyThere
    | _, _ => do opened (← w.save .replace text .empty)
  | _ => do opened (← w.save .replace text .empty)

/-- Opens a path on a handle, or says why not. -/
def openPath (handle : Nat) (opening : Opening) (text : String) (s : State) : Except String State :=
  match (handleOfPath? text).bind fun h => s.handles.lookup h with
  | some channel => .ok (s.setHandle handle channel)
  | none =>
    match openFile opening text s with
    | .ok (c, w) => .ok ((s.withWorld w).opened handle c)
    | .error fault => .error (openComplaint (opening ≠ .read) text fault)

/-- Makes a handle a copy of another, or closes it. -/
def copyHandle (handle : Nat) (cs : Chars) (s : State) : Except String State :=
  match cs with
  | ['-'] => .ok (s.closeHandle handle)
  | [d] =>
    match s.handles.lookup (d.toNat - 48) with
    | some channel => .ok (s.setHandle handle channel)
    | none => .error s!"{d}: Bad file descriptor"
  | _ => .error ""

/-! ## Loops -/

/-- Repeats a step for as long as it says so; `limit` bounds how often. -/
def repeating {α : Type} (step : α → α × Bool) : Nat → α → α
  | 0, a => a
  | limit + 1, a =>
    match step a with
    | (a, true) => repeating step limit a
    | (a, false) => a

def mostRounds : Nat := 1000000

/-- The state behind a round of a loop, and whether the loop is left. -/
def afterRound (s : State) : State × Bool :=
  match s.flow with
  | .onward => (s, false)
  | .breaking again levels =>
    if levels ≤ 1 then ({ s with flow := .onward }, !again)
    else ({ s with flow := .breaking again (levels - 1) }, true)
  | _ => (s, true)

/-! ## Words and commands -/

/-- How a word is taken. -/
structure Manner where
  /-- Whether it is cut into fields. -/
  splits : Bool
  /-- Whether its own text is. -/
  loose : Bool
  /-- Whether home folders can stand behind colons. -/
  assigns : Bool

namespace Manner

def field : Manner := ⟨true, false, false⟩

def whole : Manner := ⟨false, false, false⟩

def assigned : Manner := ⟨false, false, true⟩

end Manner

/-- The output of commands as it stands in a word: without null characters, and without the line
feeds at its end. -/
def outputText (bytes : ByteArray) : Chars :=
  (((charsOf bytes).filter (· != '\x00')).reverse.dropWhile (· == '\n')).reverse

def loosened (loose : Bool) (ps : List Piece) : List Piece :=
  ps.map fun
    | .char c false _ => .char c false loose
    | p => p

/-- The variables that assignments in front of a command hide, as they are before it. -/
def hidden (names : List Chars) (s : State) : List (Chars × Option Variable) :=
  names.map fun n => (n, s.named? n)

def restore (saved : List (Chars × Option Variable)) (s : State) : State :=
  saved.foldl (fun s e =>
    match e.2 with
    | some v => (s.setVariable e.1 v).forgetFor e.1
    | none => s.removeVariable e.1) s

/-- Ends the script after a failure, if it is to end there. -/
def checked (tested : Bool) (s : State) : State :=
  if s.hasOption 'e' && !tested && s.status ≠ 0 && s.isOnward then
    { s with flow := .leaving s.status }
  else s

def plainText (w : Word) : String :=
  textOf (w.flatMap fun
    | .text _ cs => cs
    | _ => [])

/-- How long a command sleeps if all that is in it runs once. -/
def sleepIn : Nat → Command → Real
  | 0, _ => .ofInt 0
  | fuel + 1, c =>
    let all (cs : List Command) : Real := cs.foldl (fun n c => n.add (sleepIn fuel c)) (.ofInt 0)
    match c with
    | .simple _ _ words _ => Waiting.sleepOf (words.map plainText)
    | .redirected _ body _ => sleepIn fuel body
    | .apart _ body _ => sleepIn fuel body
    | .not body => sleepIn fuel body
    | .inOrder a b => all [a, b]
    | .both a b => all [a, b]
    | .either a b => all [a, b]
    | .pipe stages => all stages
    | .each _ _ _ body => sleepIn fuel body
    | .loop _ a b => all [a, b]
    | .choose a b c => all [a, b, c]
    | _ => .ofInt 0

def assigners : List Chars := ["export", "readonly", "local"].map String.toList

mutual

/-- The pieces that a word stands for; `first` says that it starts here. -/
def pieces (l : Launcher) : Nat → Manner → Bool → Word → State → List Piece × State
  | 0, _, _, _, s => ([], s)
  | _, _, _, [], s => ([], s)
  | fuel + 1, m, first, part :: rest, s =>
    let (found, s) : List Piece × State := match part with
      | .text true [] => ([.keep], s)
      | .text true cs => (Piece.ofText true false cs, s)
      | .text false cs =>
        let last := rest.isEmpty
        (loosened m.loose (if m.assigns then withHomes s first last cs
          else if first then withHome s false last cs
          else Piece.ofText false false cs), s)
      | .value q name use => valuePieces l fuel m q name use s
      | .output q body =>
        let s := s.settled
        let (channel, shared) := s.shared.add (.pool [])
        let inner := ending l fuel (run l fuel false body
          ({ s with shared }.fork.setHandle 1 channel))
        let after := s.join inner
        let text := outputText (after.shared.kept channel)
        (Piece.ofText q (m.splits && !q) text,
          { after with status := s.status, outputStatus := some inner.finalStatus })
      | .sum q expression =>
        let (ps, s) := pieces l fuel .whole false expression s
        match Sum.evaluate s.value? (Piece.chars ps) with
        | .error message => ([], if s.isOnward then s.die message else s)
        | .ok (n, assigned) =>
          let s := assigned.reverse.foldl (fun (s : State) (e : Chars × Int) =>
            match s.assign e.1 (toString e.2).toList with
            | .ok s => s
            | .error message => s.die message) s
          (Piece.ofText q (m.splits && !q) (toString n).toList, s)
    if s.isOnward then
      let (more, s) := pieces l fuel m false rest s
      (found ++ more, s)
    else (found, s)

def valuePieces (l : Launcher) : Nat → Manner → Bool → Chars → Use → State → List Piece × State
  | 0, _, _, _, _, s => ([], s)
  | fuel + 1, m, q, name, use, s =>
    let isList : Bool := name = ['@'] ∨ name = ['*']
    let text (cs : Chars) : List Piece := Piece.ofText q (m.splits && !q) cs
    let plain (s : State) : List Piece :=
      if m.splits && (name = ['@'] || (isList && !q)) then Piece.ofArgs q s.args
      else text ((s.text? name).getD [])
    let value := s.text? name
    let isUnset := value.isNone && s.hasOption 'u' && !isList
    let unset : List Piece × State := ([], s.die s!"{textOf name}: parameter not set")
    match use with
    | .broken => ([], s.die "Bad substitution")
    | .plain => if isUnset then unset else (plain s, s)
    | .length =>
      if isUnset then unset else (text (toString (value.getD []).length).toList, s)
    | .trim atEnd longest pattern =>
      if isUnset then unset
      else
        let (ps, s) := pieces l fuel .whole true pattern s
        (text (trimmed atEnd longest (Piece.pattern ps) (value.getD [])), s)
    | .mend remedy orEmpty word =>
      let missing := value.isNone || (orEmpty && value = some [])
      let inner : Manner := { m with loose := m.splits && !q, assigns := false }
      match remedy, missing with
      | .substitute, true => pieces l fuel inner true word s
      | .substitute, false => (plain s, s)
      | .replace, true => ([], s)
      | .replace, false => pieces l fuel inner true word s
      | .assign, false => (plain s, s)
      | .assign, true =>
        let (ps, s) := pieces l fuel .whole true word s
        let value := Piece.chars ps
        if !s.isOnward then ([], s)
        else if isName name then
          match s.assign name value with
          | .ok s => (text value, s)
          | .error message => ([], s.die message)
        else ([], s.die s!"{textOf name}: bad variable name")
      | .complain, false => (plain s, s)
      | .complain, true =>
        let (ps, s) := pieces l fuel .whole true word s
        let said := if word.isEmpty then "parameter not set" ++ (if orEmpty then " or null" else "")
          else textOf (Piece.chars ps)
        ([], s.die s!"{textOf name}: {said}")

/-- The text that a word stands for without being cut. -/
def flat (l : Launcher) : Nat → Manner → Word → State → Chars × State
  | 0, _, _, s => ([], s)
  | fuel + 1, m, w, s =>
    let (ps, s) := pieces l fuel m true w s
    (Piece.chars ps, s)

/-- The fields that words stand for. Behind a command that assigns, assignments are not cut. -/
def fields (l : Launcher) : Nat → Bool → List Word → State → List Chars × State
  | 0, _, _, s => ([], s)
  | _, _, [], s => ([], s)
  | fuel + 1, assigning, word :: rest, s =>
    let (found, s) := match if assigning then assignment? word else none with
      | some (name, value) =>
        let (cs, s) := flat l fuel .assigned value s
        ([name ++ '=' :: cs], s)
      | none =>
        let (ps, s) := pieces l fuel .field true word s
        ((cutFields s.separators ps).flatMap (namesOf s), s)
    if s.isOnward then
      let (more, s) := fields l fuel assigning rest s
      (found ++ more, s)
    else (found, s)

def arguments (l : Launcher) : Nat → List Word → State → List Chars × State
  | 0, _, s => ([], s)
  | _, [], s => ([], s)
  | fuel + 1, word :: rest, s =>
    match fields l fuel false [word] s with
    | ([], s) => arguments l fuel rest s
    | (found, s) =>
      if s.isOnward then
        let (more, s) := fields l fuel (found.any assigners.contains) rest s
        (found ++ more, s)
      else (found, s)

/-- Performs assignments one after the other, and gives them as texts. -/
def assignAll (l : Launcher) :
    Nat → Bool → List (Chars × Word) → State → List Chars × State
  | 0, _, _, s => ([], s)
  | _, _, [], s => ([], s)
  | fuel + 1, exports, (name, word) :: rest, s =>
    let (value, s) := flat l fuel .assigned word s
    if s.isOnward then
      match if exports then s.assignExported name value else s.assign name value with
      | .ok s =>
        let (shown, s) := assignAll l fuel exports rest s
        ((name ++ '=' :: value) :: shown, s)
      | .error message => ([], s.die message)
    else ([], s)

/-- Shows on a channel the words of a command that is about to run, behind a text that a variable
gives. -/
def trace (l : Launcher) : Nat → Option Nat → List Chars → State → State
  | 0, _, _, s => s
  | fuel + 1, channel, words, s =>
    if !s.hasOption 'x' then s
    else
      let quiet := { s with options := s.options.filter (· != 'x') }
      let (mark, after) := match readWhole ((s.value? "PS4".toList).getD []) with
        | .ok word => flat l fuel .whole word quiet
        | .error _ => ([], quiet)
      let line := charBytes (mark ++ List.intercalate [' '] words ++ ['\n'])
      let shared := (channel.bind (after.shared.put · line)).getD after.shared
      { after with shared, options := s.options }

/-- Opens handles; false if that fails. -/
def openAll (l : Launcher) : Nat → List Redirection → State → Bool × State
  | 0, _, s => (true, s)
  | _, [], s => (true, s)
  | fuel + 1, .mk handle opening target :: rest, s =>
    let (cs, s) := flat l fuel .whole target s
    if !s.isOnward then (false, s)
    else
      let next : Except String State := match opening with
        | .document => .ok (s.opened handle (.supply .pipe (charBytes cs)))
        | .copy => copyHandle handle cs s
        | opening => openPath handle opening (textOf cs) s
      match next with
      | .ok s => openAll l fuel rest s
      | .error "" => (false, s.die s!"Bad fd number: {textOf cs}")
      | .error message => (false, (s.complain message).ends 2)

/-- Runs commands from a text, line by line. A line that cannot be read ends the script. -/
def runText (l : Launcher) : Nat → Bool → Chars → State → State
  | 0, _, _, s => s
  | fuel + 1, tested, cs, s =>
    let step (acc : Scan × State) : (Scan × State) × Bool :=
      match acc.1.line? acc.2.aliases with
      | .ok none => (acc, false)
      | .error fault =>
        let s := { acc.2 with line := fault.line }
        ((acc.1, s.die fault.message), false)
      | .ok (some (command, scan)) =>
        let s := run l fuel tested command acc.2
        ((scan, s), s.isOnward)
    (repeating step (cs.length + 1) (.start cs, s)).2

def answerSignals (l : Launcher) : Nat → State → State
  | 0, s => s
  | fuel + 1, s =>
    match s.inner, s.shared.arrived with
    | true, _ => s
    | _, [] => s
    | false, signal :: rest =>
      let before := { s with shared := { s.shared with arrived := rest } }
      let after := runText l fuel false ((s.traps.lookup signal).getD []) before
      answerSignals l fuel { after with status := before.status }

/-- The end of a shell, at which it does what it was asked to do then. What runs aside goes on to
its own end. -/
def ending (l : Launcher) : Nat → State → State
  | 0, s => s
  | fuel + 1, s =>
    match s.flow, s.traps.lookup 0 with
    | .killed _, _ => s.settle none
    | _, none => s.settle none
    | _, some action =>
      let status := s.finalStatus
      let before := { s with traps := s.traps.filter (·.1 ≠ 0), status, flow := .onward }
      let after := (runText l fuel false action before).settle none
      match after.flow with
      | .leaving _ => after
      | .killed _ => after
      | _ => { after with flow := .leaving status }

/-- Runs the stages of a pipeline, each of them in a shell of its own. -/
def runStages (l : Launcher) : Nat → Option ByteArray → List Command → State → State
  | 0, _, _, s => s
  | _, _, [], s => s
  | fuel + 1, input, stage :: rest, s =>
    let child := s.fork
    let child := match input with
      | none => child
      | some bytes => child.opened 0 (.supply .pipe bytes)
    if rest.isEmpty then s.join (ending l fuel (run l fuel false stage child))
    else
      let (channel, shared) := child.shared.add (.pool [])
      let child := { child with shared }.setHandle 1 channel
      let s := s.join (ending l fuel (run l fuel false stage child))
      runStages l fuel (some (s.shared.kept channel)) rest s

def call (l : Launcher) : Nat → Bool → Command → List Chars → State → State
  | 0, _, _, _, s => s
  | fuel + 1, tested, body, args, s =>
    let locals := ⟨[], none⟩ :: s.locals
    let after := run l fuel tested body { s with args, loops := 0, optionOffset := 0, locals }
    let frame := after.locals.headD ⟨[], none⟩
    let after := restore frame.values after
    { after with
      options := frame.options.getD after.options
      args := s.args
      loops := s.loops
      locals := s.locals
      optionOffset := s.optionOffset
      flow := match after.flow with
        | .returning => .onward
        | flow => flow }

/-- Runs a command of the script itself; `special` says that its failure ends the script. -/
def runBuiltin (l : Launcher) : Nat → Bool → Bool → String → List Chars → State → State
  | 0, _, _, _, _, s => s
  | fuel + 1, tested, special, name, args, outer =>
    let s := { outer with context := if name = "command" then outer.context else name ++ ": " }
    let failed (message : String) (s : State) : State :=
      let s := (s.complain message).ends 2
      if special then { s with flow := .leaving 2 } else s
    let back (s : State) : State := { s with context := outer.context }
    back <| match name with
    | "eval" =>
      let text := List.intercalate [' '] args
      runText l fuel tested text s.succeed
    | "." =>
      match (Letters.read [] args).map Letters.operands with
      | .error message => failed message s
      | .ok [] => s.succeed
      | .ok (file :: _) =>
        match scriptPath? file s with
        | none => failed s!"{textOf file}: not found" s
        | some path =>
          match s.world.contents path with
          | .error fault => failed (openComplaint false path fault) s
          | .ok bytes =>
            let after := runText l fuel false (charsOf bytes) s.succeed
            match after.flow with
            | .returning => { after with flow := .onward }
            | _ => after
    | "exec" =>
      if args.isEmpty then s.succeed
      else
        let s := becomeProgram l args s
        { s with flow := .leaving s.status }
    | "type" => explain l none true args s
    | "command" =>
      match Letters.read "pvV".toList args with
      | .error message => failed message { s with context := "command: " }
      | .ok g =>
        let atLength := g.has 'V'
        let folders := if g.has 'p' then some usualFolders else none
        if atLength || g.has 'v' then explain l folders atLength (g.operands.take 1) s
        else
          match g.operands with
          | [] => s.succeed
          | inner :: rest =>
            let text := textOf inner
            if isBuiltin text then runBuiltin l fuel tested false text rest s
            else useProgram l folders g.operands s
    | name =>
      match if name = "hash" then some (remember l) else builtin? name with
      | none => s
      | some f =>
        match f args s with
        | .ok s => s
        | .error message => failed message s

/-- Runs what the words of a command name, with its handles open. -/
def invoke (l : Launcher) : Nat → Bool → List Chars → State → State
  | 0, _, _, s => s
  | _, _, [], s => s.ends (s.outputStatus.getD 0)
  | fuel + 1, tested, word :: args, s =>
    let name := textOf word
    if specialBuiltins.contains name then runBuiltin l fuel tested true name args s
    else
      match s.functions.lookup word with
      | some body => call l fuel tested body args s
      | none =>
        if isBuiltin name then runBuiltin l fuel tested false name args s
        else useProgram l none (word :: args) s

/-- Performs the assignments of a command and runs it; what comes before is shown on a channel.
Assignments last that stand alone or in front of a special command. -/
def perform (l : Launcher) :
    Nat → Bool → Option Nat → List (Chars × Word) → List Chars → State → State
  | 0, _, _, _, _, s => s
  | fuel + 1, tested, channel, assignments, argv, s =>
    let name := textOf (argv.headD [])
    let lasting := argv.isEmpty || specialBuiltins.contains name
    let saved := if lasting then [] else hidden (assignments.map Prod.fst) s
    let exports := !lasting || (name = "exec" && 1 < argv.length)
    let (shown, inner) := assignAll l fuel exports assignments s
    let after := if inner.isOnward then
        invoke l fuel tested argv (trace l fuel channel (shown ++ argv) inner)
      else inner
    restore saved after

/-- Runs a command. A failure that is tested does not end the script. -/
def run (l : Launcher) : Nat → Bool → Command → State → State
  | 0, _, _, s => s
  | fuel + 1, tested, command, s =>
    if !s.isOnward || s.hasOption 'n' then s
    else
      match command with
      | .nothing => s
      | .simple line assignments words redirections =>
        let (argv, s) := arguments l fuel words { s with line, outputStatus := none }
        if !s.isOnward then s
        else
          let (good, inner) := openAll l fuel redirections s
          let special := specialBuiltins.contains (textOf (argv.headD []))
          let after :=
            if good then perform l fuel tested (s.handles.lookup 2) assignments argv inner
            else if special && inner.isOnward then { inner with flow := .leaving 2 }
            else inner
          let after := if good && argv = ["exec".toList] then after
            else { after with handles := s.handles }
          checked tested (answerSignals l fuel after)
      | .redirected line body redirections =>
        let (good, inner) := openAll l fuel redirections { s with line }
        let after := if good then run l fuel tested body inner else inner
        { after with handles := s.handles }
      | .inOrder first second => run l fuel tested second (run l fuel tested first s)
      | .both first second =>
        let s := run l fuel true first s
        if s.isOnward && s.status = 0 then run l fuel tested second s else s
      | .either first second =>
        let s := run l fuel true first s
        if s.isOnward && s.status ≠ 0 then run l fuel tested second s else s
      | .not body =>
        let s := run l fuel true body s
        if s.isOnward then s.ends (if s.status = 0 then 1 else 0) else s
      | .pipe stages =>
        let after := runStages l fuel none stages (findAhead l stages s.settled)
        checked tested (answerSignals l fuel after)
      | .aside body =>
        let work (shared : Shared) : Shared × JobEnd :=
          let s := { s with shared }
          let child := s.fork.opened 0 (.supply .nothing .empty)
          let inner := ending l fuel (run l fuel false body child)
          ((s.join inner).shared, match inner.flow with
            | .killed signal => .killed signal
            | _ => .exited inner.finalStatus)
        let stages := match body with
          | .pipe stages => stages
          | body => [body]
        let s := if 1 < stages.length then findAhead l stages s else s
        s.startJob stages.length (sleepIn fuel body) work
      | .each line name items body =>
        let (values, s) := match items with
          | none => (s.args, s)
          | some words => fields l fuel false words { s with line }
        if !s.isOnward then s
        else
          let round (acc : State × Bool) (value : Chars) : State × Bool :=
            if acc.2 then acc
            else
              match acc.1.assign name value with
              | .error message => (acc.1.die message, true)
              | .ok s => afterRound (run l fuel tested body s)
          let (after, _) := values.foldl round ({ s.succeed with loops := s.loops + 1 }, false)
          { after with loops := s.loops }
      | .select line subject branches =>
        let (cs, s) := flat l fuel .whole subject { s with line }
        if s.isOnward then select l fuel tested cs branches s else s
      | .choose condition yes no =>
        let s := run l fuel true condition s
        if !s.isOnward then s
        else if s.status = 0 then run l fuel tested yes s
        else run l fuel tested no s.succeed
      | .loop holds condition body =>
        let round (acc : State × Nat) : (State × Nat) × Bool :=
          let before := run l fuel true condition acc.1
          let (s, left) := afterRound before
          if !before.isOnward then
            let status := if before.flow = .returning then before.status else acc.2
            ((s, status), !left)
          else if (s.status = 0) ≠ holds then ((s, acc.2), false)
          else
            let s := run l fuel tested body s
            let status := s.status
            let (s, left) := afterRound s
            ((s, status), !left)
        let (after, status) := repeating round mostRounds ({ s with loops := s.loops + 1 }, 0)
        { after with
          loops := s.loops
          status := match after.flow with
            | .leaving n => n
            | _ => status }
      | .apart line body redirections =>
        let s := s.settled
        let (good, child) := openAll l fuel redirections { s.fork with line }
        let inner := if good then run l fuel tested body child else child
        checked tested (answerSignals l fuel (s.join (ending l fuel inner)))
      | .define name body =>
        { s with functions := (name, body) :: s.functions.filter (·.1 ≠ name), status := 0 }

def select (l : Launcher) :
    Nat → Bool → Chars → List (List Word × Command) → State → State
  | 0, _, _, _, s => s
  | _, _, _, [], s => s.succeed
  | fuel + 1, tested, cs, (patterns, body) :: rest, s =>
    let (found, s) := matchesAny l fuel cs patterns s
    if !s.isOnward then s
    else if found then
      match body with
      | .nothing => s.succeed
      | body => run l fuel tested body s
    else select l fuel tested cs rest s

def matchesAny (l : Launcher) : Nat → Chars → List Word → State → Bool × State
  | 0, _, _, s => (false, s)
  | _, _, [], s => (false, s)
  | fuel + 1, cs, pattern :: rest, s =>
    let (ps, s) := pieces l fuel .whole true pattern s
    if !s.isOnward then (false, s)
    else if Glob.accepts (Piece.pattern ps) cs then (true, s)
    else matchesAny l fuel cs rest s

end

/-! ## The shell as a program -/

def depth : Nat := 10000

def startValues (job : Job) (w : World) : List (Chars × Variable) :=
  let given := job.environment.filterMap fun (name, value) =>
    if isName (byteChars name) then
      some (byteChars name, (⟨some (byteChars value), true, false⟩ : Variable))
    else none
  let own (name value : String) : Chars × Variable :=
    (name.toList, ⟨some value.toList, false, false⟩)
  let usual := [own "IFS" " \t\n", own "OPTIND" "1", own "PS1" "# ", own "PS2" "> ", own "PS4" "+ ",
    own "PPID" "1", own "PATH" usualFolders]
  let folder :=
    ("PWD".toList, (⟨(w.folderText.map byteChars).or (some []), true, false⟩ : Variable))
  let given := given.filter fun e => e.1 ≠ "IFS".toList ∧ e.1 ≠ "PWD".toList
  (folder :: given.reverse) ++ usual.filter fun e => !given.any (·.1 = e.1)

/-- The end of a script that is run from its start. -/
def runFromStart (l : Launcher) (script name : Chars) (args : List Chars) (options : List Char)
    (job : Job) (input : ByteArray) (w : World) : ToolEnd × World :=
  let s : State :=
    { shared :=
        { world := w
          channels :=
            [.supply job.input.kind input, .outward false job.target, .outward true none]
          written := []
          elapsed := .ofInt 0
          arrived := []
          fatal := none }
      handles := [(0, 0), (1, 1), (2, 2)]
      values := startValues job w
      functions := []
      name, args
      status := 0
      outputStatus := none
      line := 1
      context := ""
      options
      loops := 0
      flow := .onward
      jobs := []
      started := 0
      traps := []
      inner := false
      outerTraps := []
      locals := []
      optionOffset := 0
      folder := byteChars (w.folderText.getD "")
      remembered := []
      aliases := []
      limits := [] }
  let inner := ending l depth (runText l depth false script { s.fork with inner := false })
  let after := s.join inner
  let status : Int := match inner.flow with
    | .killed signal => -(signal : Int)
    | _ => inner.finalStatus
  (⟨after.shared.written.reverse, status, (after.shared.offer 0).bytes⟩, after.world)

/-- What the words behind the name of a shell ask for. -/
structure Invocation where
  options : List Char
  /-- Whether the first operand is a script itself. -/
  given : Bool
  operands : List Chars

def Invocation.read (i : Invocation) : List Chars → Except String Invocation
  | [] => .ok i
  | word :: rest =>
    let letters (on : Bool) (cs : List Char) : Except String Invocation :=
      cs.foldlM (fun (i : Invocation) c =>
        if c = 'c' ∧ on then .ok { i with given := true }
        else if c = 'l' then .ok i
        else if ' ' < c ∧ (Builtin.optionNames.lookup c).isSome then
          .ok { i with options := Builtin.withLetter on c i.options }
        else .error s!"Illegal option -{c}") i
    let named (on : Bool) (name : Chars) : Except String Invocation :=
      match Builtin.optionNames.find? fun e => e.2.toList = name with
      | some (c, _) => .ok { i with options := Builtin.withOption on c i.options }
      | none => .error s!"Illegal option -o {textOf name}"
    match word, rest with
    | ['-', '-'], rest => .ok { i with operands := rest }
    | ['-'], rest => .ok { i with operands := rest }
    | ['-', 'o'], name :: rest => do (← named true name).read rest
    | ['+', 'o'], name :: rest => do (← named false name).read rest
    | '-' :: cs, rest => do (← letters true cs).read rest
    | '+' :: cs, rest => do (← letters false cs).read rest
    | word, rest => .ok { i with operands := word :: rest }

/-- Runs the script that the words name: a text, a file, or else the input. -/
def sh (l : Launcher) : Tool := fun job w =>
  let input := job.input.bytes
  let name := byteChars job.name
  let failed (message : String) : ToolEnd × World :=
    (.of [s!"{job.name}: 0: {message}"] .empty 2 input, w)
  match Invocation.read ⟨[], false, []⟩ (job.args.map byteChars) with
  | .error message => failed message
  | .ok i =>
    if i.given then
      match i.operands with
      | [] => failed "-c requires an argument"
      | [script] => runFromStart l script name [] i.options job input w
      | script :: name :: args => runFromStart l script name args i.options job input w
    else
      match i.operands with
      | [] =>
        let options := Builtin.withOption true 's' i.options
        runFromStart l (charsOf input) name [] options job .empty w
      | file :: args =>
        if i.options.contains 's' then
          runFromStart l (charsOf input) name i.operands i.options job .empty w
        else
          match w.contents (textOf file) with
          | .ok bytes => runFromStart l (charsOf bytes) file args i.options job input w
          | .error .isFolder => runFromStart l [] file args i.options job input w
          | .error fault => failed (openComplaint false (textOf file) fault)

end CommandShell.Script
