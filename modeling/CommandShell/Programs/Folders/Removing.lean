import CommandShell.Programs.Progress

/-!
# Taking away

Files, links and folders. A folder goes with all that is in it only if that is asked for; its
contents go first, in the order of their names.
-/
namespace CommandShell.Removing
open NameText

/-- When questions are asked before something goes. -/
inductive Asking
  | never
  | once
  | always
  deriving DecidableEq

structure Removal where
  force : Bool
  recursive : Bool
  empties : Bool
  verbose : Bool
  asking : Asking

/-- What the words say on questions; the last of them counts. -/
def askingOf? (o : Options) : Except String Asking :=
  match o.last? ["f", "i", "I", "interactive"] with
  | some ("i", _) => .ok .always
  | some ("I", _) => .ok .once
  | some ("interactive", none) => .ok .always
  | some ("interactive", some word) =>
    if word ∈ ["never", "no", "none"] then .ok .never
    else if word = "once" then .ok .once
    else if word ∈ ["always", "yes"] then .ok .always
    else .error s!"invalid argument {Naming.always word} for '--interactive'"
  | _ => .ok .never

/-- Faults that mean that there is nothing to take away. -/
def meansGone : FileFault → Bool
  | .notFound => true
  | .notFolder => true
  | .invalid => true
  | _ => false

def kindOf : Entry → String
  | .folder _ => "directory"
  | .file f => if f.bytes.isEmpty then "regular empty file" else "regular file"
  | .link _ => "symbolic link"
  | .device _ => "character special file"

/-- Takes away what stands at a location, and says whether the folders above it have to stay without
another question; `fuel` bounds the depth. -/
def removeAt (r : Removal) : Nat → String → Location → Progress → Bool × Progress
  | 0, _, _, p => (true, p)
  | fuel + 1, shown, l, p =>
    let quoted := Naming.always shown
    let consent (question : String) (p : Progress) : Bool × Progress :=
      if r.asking = .always then p.ask question else (true, p)
    let discard (line : String) (p : Progress) : Bool × Progress :=
      let p := p.into (p.world.discard l)
      (false, if r.verbose then p.print line else p)
    match p.world.files.get? l with
    | none => (false, p)
    | some (.folder _) =>
      let names := p.world.files.names l
      let (willing, p) :=
        if names = [] then (true, p) else consent s!"descend into directory {quoted}" p
      if !willing then (true, p)
      else
        let (held, p) := names.foldl (fun (held, p) name =>
          let (one, p) := removeAt r fuel (joined shown name) (l ++ [name]) p
          (held || one, p)) (false, p)
        if held then (true, p)
        else
          let (willing, p) := consent s!"remove directory {quoted}" p
          if !willing then (false, p)
          else if p.world.files.names l ≠ [] then
            (true, p.fault s!"cannot remove {quoted}" .notEmpty)
          else discard s!"removed directory {quoted}" p
    | some e =>
      let (willing, p) := consent s!"remove {kindOf e} {quoted}" p
      if willing then discard s!"removed {quoted}" p else (false, p)

def removeOne (r : Removal) (name : String) (p : Progress) : Progress :=
  let what := s!"cannot remove {Naming.always name}"
  let depth := p.world.files.entries.length + 1
  let remove (l : Location) : Progress := (removeAt r depth name l p).2
  match p.world.sight name with
  | .error f => if r.force && meansGone f then p else p.fault what f
  | .ok (.free _) => if r.force then p else p.fault what .notFound
  | .ok (.file l _) => remove l
  | .ok (.link l _) => remove l
  | .ok (.device ..) => p.fault what .notPermitted
  | .ok (.folder place) =>
    let isEmpty := p.world.files.names place.path = []
    if !r.recursive && !(r.empties && isEmpty) then
      p.fault what (if r.empties then .notEmpty else .isFolder)
    else if endsInDots name then
      p.complain s!"refusing to remove '.' or '..' directory: skipping {Naming.always name}"
    else if place.path = [] then p.complain "it is dangerous to operate recursively on '/'"
    else
      match p.world.sight (trimmed name) with
      | .ok (.link ..) => p.fault what .notFolder
      | _ => remove place.path

/-- The question that is asked once, before anything goes. -/
def question (r : Removal) (count : Nat) : String :=
  let arguments := if count = 1 then "argument" else "arguments"
  if r.recursive then s!"remove {count} {arguments} recursively" else s!"remove {count} {arguments}"

def rm : Tool :=
  .withOptions (.of "dfirRvI" ["dir d", "force f", "interactive[=]", "recursive r", "verbose v",
    "one-file-system", "preserve-root[=]", "no-preserve-root"]) 1 fun o job w =>
    match askingOf? o with
    | .error message => (Tool.misused job message 1, w)
    | .ok asking =>
      let r : Removal :=
        { force := o.lastKey? ["f", "i", "I"] = some "f"
          recursive := o.hasAny ["r", "R"]
          empties := o.has "d"
          verbose := o.has "v"
          asking }
      let p := Progress.start job w
      let count := o.operands.length
      if count = 0 then
        if r.force then p.finish else (Tool.misused job "missing operand" 1, w)
      else
        let (willing, p) :=
          if asking = .once && (r.recursive || 3 < count) then p.ask (question r count)
          else (true, p)
        if willing then (o.operands.foldl (fun p name => removeOne r name p) p).finish else p.finish

def unlink : Tool := .withOptions (.of "" []) 1 fun o job w =>
  match o.operands with
  | [] => (Tool.misused job "missing operand" 1, w)
  | [name] =>
    let p := Progress.start job w
    let what := s!"cannot unlink {Naming.always name}"
    (match w.sight name with
    | .error f => p.fault what f
    | .ok (.free _) => p.fault what .notFound
    | .ok (.file l _) => p.into (w.discard l)
    | .ok (.link l _) => p.into (w.discard l)
    | .ok (.folder _) => p.fault what .isFolder
    | .ok (.device ..) => p.fault what .notPermitted).finish
  | _ :: extra :: _ => (Tool.misused job s!"extra operand {Naming.always extra}" 1, w)

/-! ## Empty folders -/

def removeFolder (w : World) (name : String) : Except FileFault World :=
  match w.sight name, w.sight (trimmed name) with
  | .error f, _ => .error f
  | .ok (.free _), _ => .error .notFound
  | .ok (.folder _), .ok (.link ..) => .error .notFolder
  | .ok (.folder place), _ =>
    if last name = "." then .error .invalid
    else if place.path = [] then .error .busy
    else if last name = ".." ∨ w.files.names place.path ≠ [] then .error .notEmpty
    else .ok (w.discard place.path)
  | .ok _, _ => .error .notFolder

/-- The names of the folders above, the nearest first. -/
def foldersAbove : Nat → String → List String
  | 0, _ => []
  | fuel + 1, name =>
    let name := (trimmed name).toList
    if name.contains '/' then
      let rest := (name.reverse.dropWhile (!Path.isSlash ·)).dropWhile Path.isSlash
      if rest = [] then ["/"]
      else
        let text := String.ofList rest.reverse
        text :: foldersAbove fuel text
    else []

/-- Takes empty folders away, one after the other, until one fails. -/
def removeFolders (verbose tolerant : Bool) : Bool → List String → Progress → Progress
  | _, [], p => p
  | first, name :: rest, p =>
    let p := if verbose then p.announce s!"removing directory, {Naming.always name}" else p
    match removeFolder p.world name with
    | .ok w => removeFolders verbose tolerant false rest (p.into w)
    | .error .notEmpty =>
      if tolerant then p
      else
        let kind := if first then "" else "directory "
        p.fault s!"failed to remove {kind}{Naming.always name}" .notEmpty
    | .error f =>
      let kind := if first then "" else "directory "
      p.fault s!"failed to remove {kind}{Naming.always name}" f

def rmdir : Tool :=
  .onOperands (.of "pv" ["ignore-fail-on-non-empty", "parents p", "path p", "verbose v"])
    fun o name p =>
      let names := if o.has "p" then name :: foldersAbove (name.length + 1) name else [name]
      removeFolders (o.has "v") (o.has "ignore-fail-on-non-empty") true names p

end CommandShell.Removing
