import CommandShell.Programs.Progress
import CommandShell.Programs.Amount

/-!
# Modes

What the owner, the group and others may do with a file, written as an octal number or as changes
to the mode that a file has.
-/
namespace CommandShell

namespace Mode

/-- The bits that a letter for a class of users stands for. -/
def classBits : Char → Nat
  | 'u' => 0o4700
  | 'g' => 0o2070
  | 'o' => 0o1007
  | _ => 0o7777

inductive Sign
  | add
  | drop
  | assign
  deriving DecidableEq

/-- What one sign changes: bits, bits where something may run already, or a copy of a class. -/
structure Change where
  affected : Nat
  sign : Sign
  bits : Nat
  bitsIfRunnable : Nat
  copied : Option Char
  /-- Whether classes are named; otherwise an assignment leaves nothing of what was there. -/
  named : Bool

def isClass (c : Char) : Bool := c == 'u' || c == 'g' || c == 'o' || c == 'a'

def isSign (c : Char) : Bool := c == '+' || c == '-' || c == '='

def signOf : Char → Sign
  | '+' => .add
  | '-' => .drop
  | _ => .assign

/-- The bits of a letter in all classes at once. -/
def letterBits? : Char → Option Nat
  | 'r' => some 0o444
  | 'w' => some 0o222
  | 'x' => some 0o111
  | 'X' => some 0
  | 's' => some 0o6000
  | 't' => some 0o1000
  | _ => none

def isOctalDigit (c : Char) : Bool := '0' ≤ c && c ≤ '7'

def octal (cs : List Char) : Nat := cs.foldl (fun n c => 8 * n + (c.toNat - 48)) 0

/-- Reads signs and what stands behind them; `fuel` bounds the steps. -/
def changesWithin (affected : Nat) (named : Bool) : Nat → List Char → Option (List Change)
  | 0, _ => none
  | _, [] => some []
  | fuel + 1, sign :: rest =>
    if !isSign sign then none
    else
      match rest with
      | c :: more =>
        if (c = 'u' ∨ c = 'g' ∨ c = 'o') then
          (changesWithin affected named fuel more).map
            (⟨affected, signOf sign, 0, 0, some c, named⟩ :: ·)
        else if isOctalDigit c then
          if named ∨ ¬ rest.all isOctalDigit ∨ 0o7777 < octal rest then none
          else some [⟨0o7777, signOf sign, octal rest, 0, none, true⟩]
        else
          let letters := rest.takeWhile fun c => (letterBits? c).isSome
          let bits := (letters.filterMap letterBits?).foldl (· ||| ·) 0
          let ifRunnable := if letters.contains 'X' then 0o111 else 0
          (changesWithin affected named fuel (rest.drop letters.length)).map
            (⟨affected, signOf sign, bits, ifRunnable, none, named⟩ :: ·)
      | [] => some [⟨affected, signOf sign, 0, 0, none, named⟩]

/-- Reads one clause: the classes and what changes for them. -/
def clause? (mask : Nat) (text : List Char) : Option (List Change) :=
  let classes := text.takeWhile isClass
  let rest := text.drop classes.length
  let named := classes ≠ []
  let affected := if named then (classes.map classBits).foldl (· ||| ·) 0 else 0o7777 - mask
  match rest with
  | [] => none
  | rest => changesWithin affected named (rest.length + 1) rest

/-- Reads the text of a mode; where no class is named, the mask takes permissions out. -/
def read? (mask : Nat) (text : String) : Option (List Change) :=
  let cs := text.toList
  if cs ≠ [] ∧ cs.all isOctalDigit then
    if octal cs ≤ 0o7777 then some [⟨0o7777, .assign, octal cs, 0, none, true⟩] else none
  else ((Text.cut (· == ',') cs).mapM (clause? mask)).map List.flatten

/-- The bits of a class, in all classes at once. -/
def copyOf (mode : Nat) : Char → Nat
  | 'u' => (mode >>> 6 &&& 7) * 0o111
  | 'g' => (mode >>> 3 &&& 7) * 0o111
  | _ => (mode &&& 7) * 0o111

def Change.apply (isFolder : Bool) (mode : Nat) (c : Change) : Nat :=
  let runnable := isFolder || mode &&& 0o111 != 0
  let bits := c.bits ||| (if runnable then c.bitsIfRunnable else 0) |||
    (match c.copied with
      | some letter => copyOf mode letter
      | none => 0)
  let value := bits &&& c.affected
  match c.sign with
  | .add => mode ||| value
  | .drop => mode - (mode &&& value)
  | .assign =>
    let kept := if c.named then mode - (mode &&& c.affected) else 0
    let special := if isFolder ∧ c.affected ≠ 0o7777 then mode &&& 0o6000 &&& c.affected else 0
    kept ||| value ||| special

def Change.touched (c : Change) : Nat :=
  let all := match c.sign with
    | .assign => c.affected
    | _ => c.bits &&& c.affected
  all - (all &&& 0o6000 &&& (0o7777 - c.bits))

/-- The mode of a new folder for which changes are asked. Where one of the special bits is at stake,
what is not asked for stays as the mask leaves it. -/
def ofNewFolder (changes : List Change) (mask : Nat) (all : Nat) : Nat :=
  let touched := changes.foldl (fun n c => n ||| c.touched) 0
  if all &&& 0o1000 = 0 ∧ touched &&& 0o6000 = 0 then all
  else (all &&& touched) ||| ((all - (all &&& mask)) &&& (0o7777 - touched))

def apply (isFolder : Bool) (changes : List Change) (mode : Nat) : Nat :=
  changes.foldl (Change.apply isFolder) mode

def digits (mode : Nat) : String :=
  String.ofList ([mode >>> 9 &&& 7, mode >>> 6 &&& 7, mode >>> 3 &&& 7, mode &&& 7].map
    Nat.digitChar)

def letters (mode : Nat) : String :=
  let three (bits : Nat) (special : Bool) (letter : Char) : List Char :=
    let x := bits &&& 1 != 0
    [if bits &&& 4 != 0 then 'r' else '-', if bits &&& 2 != 0 then 'w' else '-',
      if special then (if x then letter else letter.toUpper) else if x then 'x' else '-']
  String.ofList (three (mode >>> 6 &&& 7) (mode &&& 0o4000 != 0) 's' ++
    three (mode >>> 3 &&& 7) (mode &&& 0o2000 != 0) 's' ++
    three (mode &&& 7) (mode &&& 0o1000 != 0) 't')

def ofEntry : Entry → Nat
  | .folder mode => mode
  | .file f => f.mode
  | .link _ => 0o777
  | .device _ => 0o666

end Mode

namespace World

def modeAt (w : World) (l : Location) : Nat := ((w.files.get? l).map Mode.ofEntry).getD 0

def setMode (w : World) (l : Location) (mode : Nat) : World :=
  match w.files.get? l with
  | some (.folder _) => if l = [] then w else { w with files := w.files.set l (.folder mode) }
  | some (.file f) => { w with files := w.files.rewrite f.identity fun f => { f with mode } }
  | _ => w

end World

namespace Modes
open NameText

structure ModeTool where
  changes : Bool → Nat → Nat
  /-- What is expected of the changes, if anything is to be said where they come to more. -/
  expected : Option (Bool → Nat → Nat)
  verbose : Bool
  changesOnly : Bool
  silent : Bool
  recursive : Bool

/-- What is said about a mode that has been set. -/
def remark (shown : String) (old new : Nat) : String :=
  let shown := Naming.always shown
  if old = new then s!"mode of {shown} retained as {Mode.digits old} ({Mode.letters old})"
  else s!"mode of {shown} changed from {Mode.digits old} ({Mode.letters old}) to " ++
    s!"{Mode.digits new} ({Mode.letters new})"

/-- Sets the mode of a location, and of all below it where that is asked for. -/
def setAt (t : ModeTool) : Nat → String → Location → Progress → Progress
  | 0, _, _, p => p
  | fuel + 1, shown, l, p =>
    let old := p.world.modeAt l
    let isFolder : Bool := match p.world.files.get? l with
      | some (.folder _) => true
      | _ => false
    let new := t.changes isFolder old
    let p := p.into (p.world.setMode l new)
    let p :=
      if t.verbose || (t.changesOnly && old != new) then p.print (remark shown old new)
      else p
    let p := match t.expected.map fun f => f isFolder old with
      | some expected =>
        if new - (new &&& expected) = 0 then p
        else p.complain (s!"{Naming.ifNeeded shown}: new permissions are {Mode.letters new}, " ++
          s!"not {Mode.letters expected}")
      | none => p
    if isFolder && t.recursive then
      (p.world.files.names l).foldl (fun p name =>
        match p.world.files.get? (l ++ [name]) with
        | some (.link _) => p
        | _ => setAt t fuel (joined shown name) (l ++ [name]) p) p
    else p

def setOne (t : ModeTool) (name : String) (p : Progress) : Progress :=
  let fail (message : String) : Progress :=
    if t.silent then { p with status := 1 } else p.complain message
  let set (l : Location) : Progress := setAt t (p.world.files.entries.length + 1) name l p
  match p.world.follow name with
  | .ok (.free _) =>
    match p.world.sight name with
    | .ok (.link ..) => fail s!"cannot operate on dangling symlink {Naming.always name}"
    | _ => fail s!"cannot access {Naming.always name}: {FileFault.notFound.wording}"
  | .error f => fail s!"cannot access {Naming.always name}: {f.wording}"
  | .ok (.folder place) => set place.path
  | .ok (.file l _) => set l
  | .ok (.device l _) => set l
  | .ok (.link l _) => set l

/-- Whether a word looks like an option and is a mode that takes something away. -/
def isRemoval (word : String) : Bool :=
  match word.toList with
  | '-' :: c :: _ => "rwxXstugoa,+=".contains c || Mode.isOctalDigit c
  | _ => false

def table : OptionTable :=
  .of "Rcfv" ["recursive R", "changes c", "quiet f", "silent f", "verbose v", "reference=",
    "preserve-root", "no-preserve-root"]

def chmod : Tool := fun job w =>
  let front := job.args.takeWhile (· ≠ "--")
  let removals := front.filter isRemoval
  let args := front.filter (!isRemoval ·) ++ job.args.drop front.length
  match Options.read table true args with
  | .error fault => (Tool.misused job fault.message 1, w)
  | .ok o =>
    let words :=
      if removals = [] then o.operands else String.intercalate "," removals :: o.operands
    let run (changes : Bool → Nat → Nat) (names : List String)
        (expected : Option (Bool → Nat → Nat)) : ToolEnd × World :=
      let t : ModeTool := ⟨changes, expected, o.has "v", o.has "c", o.has "f", o.has "R"⟩
      (names.foldl (fun p name => setOne t name p) (.start job w)).finish
    match o.value? "reference", words with
    | some name, names =>
      match w.follow name with
      | .ok (.file l _) => run (fun _ _ => w.modeAt l) names none
      | .ok (.folder place) => run (fun _ _ => w.modeAt place.path) names none
      | _ =>
        (((Progress.start job w).fault s!"failed to get attributes of {Naming.always name}"
          .notFound).finish)
    | none, [] => (Tool.misused job "missing operand" 1, w)
    | none, [word] => (Tool.misused job s!"missing operand after {Naming.always word}" 1, w)
    | none, word :: names =>
      match Mode.read? w.mask word with
      | none => (Tool.misused job s!"invalid mode: {Naming.always word}" 1, w)
      | some changes =>
        let plain := if removals = [] then none else Mode.read? 0 word
        run (fun isFolder mode => Mode.apply isFolder changes mode) names
          (plain.map fun changes isFolder mode => Mode.apply isFolder changes mode)

end Modes
end CommandShell
