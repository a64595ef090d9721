import CommandShell.Programs.Progress
import CommandShell.Programs.Sources

/-!
# Where things are put

The last operand of a tool that copies, moves or links says where the others go: it is a folder, in
which they keep their last names, or the new name of the only other one. What already stands there
may be kept under a name of its own.
-/
namespace CommandShell
open NameText

/-- Sources, each with the text of the place where it goes. -/
structure Targets where
  moves : List (String × String)
  /-- Whether the places are in a folder that is there. -/
  inFolder : Bool

namespace Targets

/-- Whether a text leads to a folder; `last` says whether a link at its end is followed. -/
def isFolder (w : World) (last : Bool) (text : String) : Bool :=
  match w.followFrom last text with
  | .ok (.folder _) => true
  | _ => false

def whyNoFolder (w : World) (text : String) : FileFault :=
  match w.follow text with
  | .error f => f
  | .ok (.free _) => .notFound
  | .ok _ => .notFolder

/-- What is wrong with operands: the words were wrong, or a target is. -/
inductive Fault
  | words (message : String)
  | target (message : String)

def inside (folder : String) (sources : List String) : Targets :=
  ⟨sources.map fun s =>
    let name := last s
    (s, if name = ".." then folder else joined (trimmed folder) name), true⟩

/-- Reads the operands of a tool. A folder given by an option takes all of them; `noFolder` says
that the last operand is a name and no folder to put things in. -/
def read (w : World) (folder : Option String) (noFolder followLast : Bool)
    (operands : List String) : Except Fault Targets :=
  match folder, operands with
  | some _, [] => .error (.words "missing file operand")
  | none, [] => .error (.words "missing file operand")
  | some folder, operands =>
    if noFolder then
      .error (.words "cannot combine --target-directory (-t) and --no-target-directory (-T)")
    else if isFolder w true folder then .ok (inside folder operands)
    else
      .error (.target
        s!"target directory {Naming.always folder}: {(whyNoFolder w folder).wording}")
  | none, [one] =>
    .error (.words s!"missing destination file operand after {Naming.always one}")
  | none, first :: second :: rest =>
    let operands := first :: second :: rest
    let target := operands.getLast?.getD second
    let sources := operands.dropLast
    if noFolder then
      match rest with
      | [] => .ok ⟨[(first, second)], false⟩
      | extra :: _ => .error (.words s!"extra operand {Naming.always extra}")
    else if isFolder w followLast target then .ok (inside target sources)
    else
      match sources with
      | [source] => .ok ⟨[(source, target)], false⟩
      | _ => .error (.target s!"target {Naming.always target}: {(whyNoFolder w target).wording}")

/-! ### What cannot be put over what -/

def folderOverFile (target source : String) : String :=
  s!"cannot overwrite non-directory {Naming.always target} with directory " ++
    Naming.always source

def fileOverFolder (target source : String) : String :=
  s!"cannot overwrite directory {Naming.always target} with non-directory " ++
    Naming.always source

def justMade (target source : String) : String :=
  s!"will not overwrite just-created {Naming.always target} with {Naming.always source}"

end Targets

/-! ## Backups -/

/-- How a backup is named. -/
inductive Backup
  | simple
  | numbered
  /-- Numbered where there are numbered ones already. -/
  | existing
  deriving DecidableEq

namespace Backup

def ofWord? (word : String) : Option (Option Backup) :=
  if word ∈ ["none", "off"] then some none
  else if word ∈ ["simple", "never"] then some (some simple)
  else if word ∈ ["existing", "nil"] then some (some existing)
  else if word ∈ ["numbered", "t"] then some (some numbered)
  else none

def numbers (w : World) (target : String) : List Nat :=
  let opening := (last target ++ ".~").toList
  match w.follow (above target) with
  | .ok (.folder place) =>
    (w.files.names place.path).filterMap fun name =>
      let cs := name.toList
      let digits := (cs.drop opening.length).takeWhile Char.isDigit
      if opening.isPrefixOf cs ∧ digits ≠ [] ∧ cs.drop (opening.length + digits.length) = ['~'] then
        some (readDigits digits)
      else none
  | _ => []

def name (b : Backup) (suffix : String) (w : World) (target : String) : String :=
  let found := numbers w target
  let next := s!"{target}.~{found.foldl max 0 + 1}~"
  match b with
  | simple => target ++ suffix
  | numbered => next
  | existing => if found = [] then target ++ suffix else next

def ofOptions (o : Options) : Except String (Option (Backup × String)) :=
  let suffix := (o.value? "S").getD "~"
  match o.last? ["b", "backup"] with
  | none => .ok (if o.has "S" then some (existing, suffix) else none)
  | some ("backup", some word) =>
    match ofWord? word with
    | some found => .ok (found.map fun b => (b, suffix))
    | none => .error s!"invalid argument {Naming.always word} for 'backup type'"
  | some _ => .ok (some (existing, suffix))

end Backup

namespace World

/-- The location at which a text ends, whatever stands there. -/
def locationOf? (w : World) (text : String) : Option Location :=
  match w.sight text with
  | .error _ => none
  | .ok (.folder place) => if place.lost = 0 then some place.path else none
  | .ok (.file l _) => some l
  | .ok (.device l _) => some l
  | .ok (.link l _) => some l
  | .ok (.free l) => some l

/-- What stands at a text, a link as what it is. -/
def entryOf? (w : World) (text : String) : Option (Location × Entry) := do
  let l ← w.locationOf? text
  return (l, ← w.files.get? l)

end World
end CommandShell
