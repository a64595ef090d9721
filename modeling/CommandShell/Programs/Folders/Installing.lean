import CommandShell.Programs.Folders.Copying
import CommandShell.Programs.Folders.Making

/-!
# Installing

Copies of files that get a mode of their own, and folders that are made with all that stand above
them. What stands in the way of a copy is taken away first.
-/
namespace CommandShell.Installing
open NameText Copying

structure Install where
  copy : Copy
  mode : List Mode.Change
  /-- Whether a copy that would change nothing is left out. -/
  sparing : Bool
  verbose : Bool

def Install.modeOf (i : Install) : Nat := Mode.apply false i.mode 0

def setMode (name : String) (mode : Nat) (p : Progress) : Progress :=
  match p.world.follow name with
  | .ok (.file l _) => p.into (p.world.setMode l mode)
  | .ok (.folder place) => p.into (p.world.setMode place.path mode)
  | _ => p

/-- Makes a folder unless it is there, and those above it before it; says whether all are there. -/
def makeFolders (verbose : Bool) : List String → Progress → Bool × Progress
  | [], p => (true, p)
  | name :: rest, p =>
    if Making.leadsToFolder p.world name then makeFolders verbose rest p
    else
      match Making.makeFolder p.world name with
      | .ok w =>
        let p := setMode name Entry.folderMode (p.into w)
        let p := if verbose then p.announce s!"creating directory {Naming.always name}" else p
        makeFolders verbose rest p
      | .error fault => (false, p.fault s!"cannot create directory {Naming.always name}" fault)

def installFolder (i : Install) (name : String) (p : Progress) : Progress :=
  match makeFolders i.verbose (Making.beginnings name ++ [name]) p with
  | (true, p) => setMode name (Mode.apply true i.mode 0) p
  | (false, p) => p

/-- Whether a target is already what a copy would make of it. -/
def isDone (i : Install) (w : World) (source target : String) : Bool :=
  match w.follow source, w.sight target with
  | .ok (.file _ f), .ok (.file _ g) =>
    i.sparing && f.bytes == g.bytes && g.mode = i.modeOf && f.identity != g.identity
  | _, _ => false

def installFile (i : Install) (move : String × String) (s : Copied) : Copied :=
  let p := s.progress
  match p.world.follow move.1 with
  | .error fault => s.on (·.fault s!"cannot stat {Naming.always move.1}" fault)
  | .ok (.free _) => s.on (·.fault s!"cannot stat {Naming.always move.1}" .notFound)
  | .ok (.folder _) => s.on (·.complain s!"omitting directory {Naming.always move.1}")
  | .ok _ =>
    if isDone i p.world move.1 move.2 then s
    else
      let failed := p.status
      let s := copyAt i.copy 1 true move.1 move.2
        { s with progress := { p with status := 0 }, top := move, metItself := false }
      if s.progress.status = 0 then
        s.on fun p => { setMode move.2 i.modeOf p with status := failed }
      else s

def table : OptionTable :=
  .of "bcCsDdg:m:o:pt:TvS:Z" ["backup[=]", "compare C", "context[=]", "debug", "directory d",
    "group= g", "mode= m", "no-target-directory T", "owner= o", "preserve-timestamps p",
    "preserve-context", "strip s", "strip-program=", "suffix= S", "target-directory= t",
    "verbose v"]

/-- A name or a number of somebody who is there. -/
def isKnown (name : String) : Bool := name = "root" || Amount.isDigits name.toList

/-- What options ask for; the message of a wrong call comes with whether it tells of help. -/
def installOf (o : Options) : Except (Bool × String) Install := do
  let backup ← (Backup.ofOptions o).mapError fun message => (true, message)
  let mode ← match o.value? "m" with
    | none => pure [(⟨0o7777, .assign, 0o755, 0, none, true⟩ : Mode.Change)]
    | some text =>
      match Mode.read? 0 text with
      | some changes => pure changes
      | none => throw (false, s!"invalid mode {Naming.always text}")
  if o.has "C" ∧ o.has "p" then
    throw (true, "options --compare (-C) and --preserve-timestamps are mutually exclusive")
  if o.has "C" ∧ o.has "s" then
    throw (true, "options --compare (-C) and --strip are mutually exclusive")
  match (o.value? "o").filter (!isKnown ·), (o.value? "g").filter (!isKnown ·) with
  | some name, _ => throw (false, s!"invalid user {Naming.always name}")
  | none, some name => throw (false, s!"invalid group {Naming.always name}")
  | none, none => pure ()
  return {
    copy :=
      { recursive := false
        following := .all
        kind := .contents
        overwriting := .always
        verbose := o.has "v"
        removesFirst := true
        removesNames := true
        emptyOnly := false
        kept := ⟨.usual, false⟩
        backup }
    mode
    sparing := o.has "C"
    verbose := o.has "v" }

/-- Makes the folders that targets need where that is asked for. -/
def makeRoom (i : Install) (o : Options) (p : Progress) : Bool × Progress :=
  if !o.has "D" then (true, p)
  else
    match o.value? "t", o.operands with
    | some folder, _ => makeFolders i.verbose (Making.beginnings folder ++ [folder]) p
    | none, [_, target] => makeFolders i.verbose (Making.beginnings target) p
    | none, _ => (true, p)

def install : Tool := .withOptions table 1 fun o job w =>
  match installOf o with
  | .error (true, message) => (Tool.misused job message 1, w)
  | .error (false, message) => (Tool.failing job message 1, w)
  | .ok i =>
    let p := Progress.start job w
    if o.has "d" then
      if o.hasAny ["t", "T"] then
        (Tool.misused job "target directory not allowed when installing a directory" 1, w)
      else if o.operands = [] then (Tool.misused job "missing file operand" 1, w)
      else (o.operands.foldl (fun p name => installFolder i name p) p).finish
    else
      let room := makeRoom i o p
      let single := o.operands.length = 2 && (o.value? "t").isNone
      let shown := if room.1 then room.2 else p
      match Targets.read shown.world (o.value? "t") (o.has "T") true o.operands with
      | .error (.words message) => (Tool.misused job message 1, w)
      | .error (.target message) => (shown.complain message).finish
      | .ok targets =>
        if !room.1 && single then room.2.finish
        else
          (targets.moves.foldl (fun s move => installFile i move s)
            ⟨shown, [], [], [], ("", ""), false⟩).progress.finish

end CommandShell.Installing
