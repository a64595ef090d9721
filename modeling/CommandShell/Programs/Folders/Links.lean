import CommandShell.Programs.Folders.Targets

/-!
# Links

A link is a text that leads on to another path; a second name is another location of one file.
-/
namespace CommandShell.Links
open NameText Bytes

/-! ## Texts without links -/

/-- How much of a path has to be there when its links are followed. -/
inductive Presence
  | everything
  | allButLast
  | nothing
  deriving DecidableEq

/-- Follows names from a folder to a location without links; `fuel` bounds the steps. -/
def settle (t : FileTree) (presence : Presence) :
    Nat → Location → List String → Except FileFault Location
  | 0, _, _ => .error .tooManyLinks
  | _, l, [] => .ok l
  | fuel + 1, l, name :: rest =>
    if name = "." ∨ name = "" then settle t presence fuel l rest
    else if name = ".." then settle t presence fuel l.dropLast rest
    else
      let next := l ++ [name]
      match t.get? next with
      | some (.folder _) => settle t presence fuel next rest
      | some (.link target) =>
        let path := Path.ofString target
        let origin := if path.anchor = .here then l else []
        settle t presence fuel origin (path.parts ++ rest)
      | some _ =>
        if rest = [] ∨ presence = .nothing then settle t presence fuel next rest
        else .error .notFolder
      | none =>
        let missing := match presence with
          | .everything => true
          | .allButLast => rest.any fun r => r ≠ "." ∧ r ≠ ""
          | .nothing => false
        if missing then .error .notFound else settle t presence fuel next rest

def namesOf (text : String) : List String := (Text.cut Path.isSlash text.toList).map String.ofList

def locationText (l : Location) : String := "/" ++ String.intercalate "/" l

def canonical (w : World) (presence : Presence) (text : String) : Except FileFault Location :=
  if text = "" then .error .notFound
  else
    let anchored := text.toList.head? = some '/'
    let names := namesOf text
    if w.place.lost ≠ 0 ∧ ¬ anchored then .error .notFound
    else
      let start := if anchored then [] else w.place.path
      match settle w.files presence (40 * (names.length + 40)) start
          names with
      | .error f => .error f
      | .ok l =>
        let holdsNames : Bool := match w.files.get? l with
          | some (.folder _) => true
          | none => true
          | _ => false
        if World.namesFolder text ∧ presence ≠ .nothing ∧ ¬ holdsNames then .error .notFolder
        else .ok l

/-- The location that names stand for when links are taken as they are. -/
def collapsed (w : World) (text : String) : Location :=
  let start := if text.toList.head? = some '/' then [] else w.place.path
  (namesOf text).foldl (fun l name =>
    if name = "" ∨ name = "." then l else if name = ".." then l.dropLast else l ++ [name]) start

def relative (origin target : Location) : String :=
  let shared := ((origin.zip target).takeWhile fun e => e.1 = e.2).length
  let names := List.replicate (origin.length - shared) ".." ++ target.drop shared
  if names = [] then "." else String.intercalate "/" names

def terminated (ending : List UInt8) (text : String) : ByteArray :=
  ofText text ++ ending.toByteArray

def presenceOf (o : Options) : Option Presence :=
  match o.lastKey? ["f", "e", "m"] with
  | some "f" => some .allButLast
  | some "e" => some .everything
  | some "m" => some .nothing
  | _ => none

def readlink : Tool :=
  .onOperands (.of "efmnqsvz" ["canonicalize f", "canonicalize-existing e",
    "canonicalize-missing m",
    "no-newline n", "quiet q", "silent s", "verbose v", "zero z"]) fun o name p =>
    let ending : List UInt8 :=
      if o.has "z" then [0] else if o.has "n" ∧ o.operands.length = 1 then [] else [lineFeed]
    let answer : Except FileFault String :=
      match presenceOf o with
      | some presence => (canonical p.world presence name).map locationText
      | none =>
        match p.world.sight name with
        | .error f => .error f
        | .ok (.free _) => .error .notFound
        | .ok (.link _ target) => .ok target
        | .ok _ => .error .invalid
    match answer with
    | .ok text => p.write (terminated ending text)
    | .error f => if o.has "v" then p.fault name f else { p with status := 1 }

def realpath : Tool :=
  .onOperands (.of "eLmPqsz" ["canonicalize-existing e", "canonicalize-missing m", "logical L",
    "physical P", "quiet q", "relative-to=", "relative-base=", "no-symlinks s", "strip s",
    "zero z"]) fun o name p =>
    let presence :=
      if o.has "e" then Presence.everything else if o.has "m" then .nothing else .allButLast
    let resolve (text : String) : Except FileFault Location :=
      if o.lastKey? ["s", "L", "P"] = some "s" then
        if text = "" then .error .notFound else .ok (collapsed p.world text)
      else canonical p.world presence text
    let show_ (l : Location) : String :=
      let base := (o.value? "relative-base").bind fun b => (resolve b).toOption
      let folder := (o.value? "relative-to").bind fun b => (resolve b).toOption
      match folder, base with
      | none, none => locationText l
      | none, some base => if base <+: l then relative base l else locationText l
      | some folder, none => relative folder l
      | some folder, some base =>
        if base <+: l ∧ base <+: folder then relative folder l else locationText l
    match resolve name with
    | .ok l => p.write (terminated (if o.has "z" then [0] else [lineFeed]) (show_ l))
    | .error f =>
      if o.has "q" then { p with status := 1 } else p.fault (Naming.ifNeeded name) f

/-! ## Making links -/

structure Linking where
  symbolic : Bool
  relative : Bool
  force : Bool
  asking : Bool
  verbose : Bool
  follow : Bool
  backup : Option (Backup × String)

structure Linked where
  progress : Progress
  filled : List Location

/-- Puts a link, or a second name, at a free location. -/
def place (k : Linking) (source target : String) (l : Location) (kept : Option String)
    (s : Linked) : Linked :=
  let p := s.progress
  let kind := if k.symbolic then "symbolic" else "hard"
  let done (w : World) : Linked :=
    let p := p.into w
    let arrow := if k.symbolic then "->" else "=>"
    let old := ((kept.map Naming.always).map (· ++ " ~ ")).getD ""
    let p :=
      if k.verbose then p.print s!"{old}{Naming.always target} {arrow} {Naming.always source}"
      else p
    ⟨p, l :: s.filled⟩
  let failed (p : Progress) : Linked := { s with progress := p }
  if k.symbolic then
    let text :=
      if k.relative then
        match canonical p.world .nothing (above target), canonical p.world .nothing source with
        | .ok origin, .ok l => relative origin l
        | _, _ => source
      else source
    if text = "" then
      failed (p.fault s!"failed to create {kind} link {Naming.always target} -> ''" .notFound)
    else done { p.world with files := p.world.files.set l (.link text) }
  else
    match p.world.followFrom k.follow source with
    | .ok (.file _ f) => done { p.world with files := p.world.files.set l (.file f) }
    | .ok (.link _ text) => done { p.world with files := p.world.files.set l (.link text) }
    | _ => failed (p.complain s!"failed to access {Naming.always source}")

/-- Whether what stands at a text is gone from there, and the name under which it was kept. -/
def clear (k : Linking) (source target : String) (l : Location) (there : Entry) (s : Linked) :
    Bool × Option String × Progress :=
  let p := s.progress
  let kind := if k.symbolic then "symbolic link" else "hard link"
  let sameFile : Bool := match p.world.followFrom k.follow source, there with
    | .ok (.file _ f), .file g => f.identity == g.identity
    | _, _ => false
  match there, k.backup with
  | .folder _, _ =>
    (false, none, p.complain s!"{Naming.ifNeeded target}: cannot overwrite directory")
  | _, some (b, suffix) =>
    let name := b.name suffix p.world target
    match p.world.locationOf? name with
    | some free => (true, some name, p.into (p.world.relocate l free))
    | none => (false, none, { p with status := 1 })
  | _, none =>
    if !k.force ∧ !k.asking then
      (false, none, p.fault s!"failed to create {kind} {Naming.always target}" .alreadyThere)
    else if s.filled.contains l then
      (false, none, p.complain (Targets.justMade target source))
    else if !k.symbolic ∧ sameFile then
      (false, none,
        p.complain s!"{Naming.always source} and {Naming.always target} are the same file")
    else
      let (willing, p) :=
        if k.asking then p.ask s!"replace {Naming.always target}" else (true, p)
      (willing, none, if willing then p.into (p.world.discard l) else p)

def linkOne (k : Linking) (s : Linked) (move : String × String) : Linked :=
  let (source, target) := move
  let p := s.progress
  let failed (p : Progress) : Linked := { s with progress := p }
  let kind := if k.symbolic then "symbolic link" else "hard link"
  let missing (f : FileFault) : Linked :=
    failed (p.fault s!"failed to access {Naming.always source}" f)
  let go (_ : Unit) : Linked :=
    let what := s!"failed to create {kind} {Naming.always target}"
    match p.world.sight target, p.world.entryOf? target with
    | .error f, _ => failed (p.fault what f)
    | .ok (.free l), _ =>
      if World.namesFolder target then failed (p.fault what .notFound)
      else place k source target l none s
    | _, some (l, e) =>
      match clear k source target l e s with
      | (true, kept, p) => place k source target l kept { s with progress := p }
      | (false, _, p) => failed p
    | _, none => failed (p.fault what .notFound)
  if k.symbolic then go ()
  else
    match p.world.followFrom k.follow source with
    | .error f => missing f
    | .ok (.free _) => missing .notFound
    | .ok (.folder _) =>
      failed (p.complain s!"{Naming.ifNeeded source}: hard link not allowed for directory")
    | .ok _ => go ()

def ln : Tool :=
  .withOptions (.of "bdfFiLnPrst:vS:T" ["backup[=]", "directory d", "no-dereference n",
    "no-target-directory T", "interactive i", "suffix= S", "target-directory= t", "logical L",
    "physical P", "relative r", "symbolic s", "verbose v", "force f"]) 1 fun o job w =>
    let operands :=
      if o.operands.length = 1 ∧ ¬ o.has "t" ∧ ¬ o.has "T" then o.operands ++ ["."] else o.operands
    match Backup.ofOptions o, Targets.read w (o.value? "t") (o.has "T") (!o.has "n") operands with
    | .error message, _ => (Tool.misused job message 1, w)
    | _, .error (.words message) => (Tool.misused job message 1, w)
    | _, .error (.target message) => (Tool.failing job message 1, w)
    | .ok backup, .ok targets =>
      let k : Linking :=
        { symbolic := o.has "s"
          relative := o.has "r"
          force := o.lastKey? ["f", "i"] = some "f"
          asking := o.lastKey? ["f", "i"] = some "i"
          verbose := o.has "v"
          follow := o.lastKey? ["L", "P"] = some "L"
          backup }
      if k.relative ∧ ¬ k.symbolic then
        (Tool.failing job "cannot do --relative without --symbolic" 1, w)
      else (targets.moves.foldl (linkOne k) ⟨.start job w, []⟩).progress.finish

def link : Tool := .withOptions (.of "" []) 1 fun o job w =>
  match o.operands with
  | [] => (Tool.misused job "missing operand" 1, w)
  | [one] => (Tool.misused job s!"missing operand after {Naming.always one}" 1, w)
  | [source, target] =>
    let p := Progress.start job w
    let what := s!"cannot create link {Naming.always target} to {Naming.always source}"
    (match w.sight source, w.sight target with
    | .error f, _ => p.fault what f
    | .ok (.free _), _ => p.fault what .notFound
    | _, .error f => p.fault what f
    | .ok (.folder _), .ok (.free _) => p.fault what .notPermitted
    | .ok (.file _ f), .ok (.free l) =>
      p.into { w with files := w.files.set l (.file f) }
    | .ok (.link _ text), .ok (.free l) =>
      p.into { w with files := w.files.set l (.link text) }
    | .ok (.device ..), .ok (.free _) => p.fault what .notPermitted
    | _, _ => p.fault what .alreadyThere).finish
  | _ :: _ :: extra :: _ => (Tool.misused job s!"extra operand {Naming.always extra}" 1, w)

end CommandShell.Links
