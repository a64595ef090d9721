import CommandShell.Programs.Progress
import CommandShell.Programs.Sources

/-!
# Temporary files

The tool that makes a file or a folder with a name that nothing else has. The signs at the end of a
template are replaced with letters, counted up until the name is free.
-/
namespace CommandShell.Temporary
open NameText

/-- A template: what stands in front of its signs, how many there are, and what stands behind. -/
structure Template where
  before : String
  signs : Nat
  after : String

def leastSigns : Nat := 3

/-- Reads a template; what stands behind its last sign ends the name, unless an ending is given. -/
def Template.read (text : String) (ending : Option String) : Except String Template :=
  let back := text.toList.reverse
  let tail := match ending with
    | some ending => ending.toList
    | none => (back.takeWhile (· ≠ 'X')).reverse
  let back := if ending.isSome then back else back.drop tail.length
  let signs := (back.takeWhile (· = 'X')).length
  if ending.isSome ∧ signs = 0 then
    .error s!"with --suffix, template {Naming.literal text} must end in X"
  else if signs ≠ 0 ∧ '/' ∈ tail then
    .error s!"invalid suffix {Naming.literal (String.ofList tail)}, contains directory separator"
  else if signs < leastSigns then
    let whole := text ++ ending.getD ""
    .error s!"too few X's in template {Naming.literal whole}"
  else .ok ⟨String.ofList (back.drop signs).reverse, signs, String.ofList tail⟩

/-- A number in letters, as many as there are signs. -/
def lettersOf (signs n : Nat) : String :=
  String.ofList ((List.range signs).map fun i =>
    Char.ofNat (97 + n / Nat.pow 26 (signs - 1 - i) % 26))

def Template.name (t : Template) (n : Nat) : String := t.before ++ lettersOf t.signs n ++ t.after

def Template.shown (t : Template) : String :=
  t.before ++ String.ofList (List.replicate t.signs 'X') ++ t.after

/-- The first name that is free, or why there is none; `fuel` bounds how many are tried. -/
def Template.free (t : Template) (w : World) : Nat → Nat → Except FileFault (String × Location)
  | 0, _ => .error .alreadyThere
  | fuel + 1, n =>
    match w.sight (t.name n) with
    | .error fault => .error fault
    | .ok (.free l) => .ok (t.name n, l)
    | .ok _ => t.free w fuel (n + 1)

/-- A name that could be used, whether or not its folder is there. -/
def Template.unused (t : Template) (w : World) (tries : Nat) : String :=
  match t.free w tries 0 with
  | .ok (name, _) => name
  | .error _ => t.name 0

/-- The folder in which a template without a folder of its own is used. -/
def folderOf (o : Options) (environment : List (String × String)) : String :=
  let surrounding := ((environment.lookup "TMPDIR").filter (· ≠ "")).getD "/tmp"
  match o.last? ["p", "tmpdir"] with
  | some (_, some folder) =>
    if o.has "t" then surrounding else if folder = "" then surrounding else folder
  | _ => surrounding

def templateOf (o : Options) (environment : List (String × String)) : Except String Template := do
  let ending := o.value? "suffix"
  match o.operands with
  | [] =>
    let t ← Template.read "tmp.XXXXXXXXXX" ending
    return { t with before := joined (folderOf o environment) t.before }
  | text :: _ =>
    let t ← Template.read text ending
    if !o.hasAny ["p", "tmpdir", "t"] then return t
    else if o.has "t" ∧ text.toList.contains '/' then
      throw s!"invalid template, {Naming.literal text}, contains directory separator"
    else if text.toList.head? = some '/' then
      throw s!"invalid template, {Naming.literal text}; with --tmpdir, it may not be absolute"
    else return { t with before := joined (folderOf o environment) t.before }

def mktemp : Tool :=
  .withOptions (.of "dp:qtu" ["directory d", "quiet q", "dry-run u", "suffix=", "tmpdir[=]"]) 1
    fun o job w =>
      let failed (message : String) : ToolEnd × World := (Tool.failing job message 1, w)
      match o.operands, templateOf o job.environment with
      | _ :: _ :: _, _ => (Tool.misused job "too many templates" 1, w)
      | _, .error message => failed message
      | _, .ok t =>
        let tries := w.files.entries.length + 1
        let made (name : String) (files : FileTree) : ToolEnd × World :=
          (.of [] (Bytes.ofText (name ++ "\n")) 0 job.input.bytes, { w with files })
        if o.has "u" then made (t.unused w tries) w.files
        else
          match t.free w tries 0 with
          | .error fault =>
            let kind := if o.has "d" then "directory" else "file"
            if o.has "q" then (.of [] .empty 1 job.input.bytes, w)
            else
              let shown := Naming.always t.shown
              failed s!"failed to create {kind} via template {shown}: {fault.wording}"
          | .ok (name, l) =>
            made name (if o.has "d" then w.files.set l (.folder 0o700)
              else w.files.create l .empty 0o600)

end CommandShell.Temporary
