import CommandShell.Programs.Folders.Details
import CommandShell.Programs.Sources

/-!
# Making

New folders and new files, and files that are made longer or shorter.
-/
namespace CommandShell.Making
open NameText Bytes

/-! ## Folders -/

def makeFolder (w : World) (name : String) : Except FileFault World :=
  if endsInDots name then
    match w.follow name with
    | .error f => .error f
    | .ok (.free _) => .error .notFound
    | .ok _ => .error .alreadyThere
  else
    match w.sight (trimmed name) with
    | .error f => .error f
    | .ok (.free l) => .ok { w with files := w.files.set l w.newFolder }
    | .ok _ => .error .alreadyThere

def leadsToFolder (w : World) (name : String) : Bool :=
  match w.follow name with
  | .ok (.folder _) => true
  | _ => false

/-- The beginnings of a text that end before a slash, the shortest first. -/
def beginnings (name : String) : List String :=
  let cs := (trimmed name).toList
  (List.range cs.length).filterMap fun n =>
    if 0 < n ∧ cs[n]? = some '/' ∧ cs[n - 1]? ≠ some '/' then some (String.ofList (cs.take n))
    else none

def makeMissing (verbose : Bool) (name : String) (p : Progress) : Except FileFault Progress :=
  match makeFolder p.world name with
  | .ok w =>
    let p := p.into w
    .ok (if verbose then p.announce s!"created directory {Naming.always name}" else p)
  | .error f => if leadsToFolder p.world name then .ok p else .error f

/-- Makes folders from the top down; stops at the first that cannot be made. -/
def makeAll (verbose : Bool) : List String → Progress → Bool × Progress
  | [], p => (true, p)
  | name :: rest, p =>
    if endsInDots name ∧ leadsToFolder p.world name then makeAll verbose rest p
    else
      match makeMissing verbose name p with
      | .ok p => makeAll verbose rest p
      | .error f => (false, p.fault s!"cannot create directory {Naming.always name}" f)

/-- Sets the mode of a folder that has just been made. -/
def withMode (changes : Option (List Mode.Change)) (name : String) (p : Progress) : Progress :=
  match changes, p.world.follow name with
  | some changes, .ok (.folder place) =>
    let all := Mode.apply true changes 0o777
    p.into (p.world.setMode place.path (Mode.ofNewFolder changes p.world.mask all))
  | _, _ => p

def mkdirOne (o : Options) (changes : Option (List Mode.Change)) (name : String) (p : Progress) :
    Progress :=
  let verbose := o.has "v"
  if o.has "p" then
    let there := leadsToFolder p.world name
    match makeAll verbose (beginnings name ++ [name]) p with
    | (true, p) => if there then p else withMode changes name p
    | (false, p) => p
  else
    match makeFolder p.world name with
    | .ok w =>
      let p := p.into w
      let p := if verbose then p.announce s!"created directory {Naming.always name}" else p
      withMode changes name p
    | .error f => p.fault s!"cannot create directory {Naming.always name}" f

def mkdir : Tool :=
  .withOptions (.of "pm:vZ" ["context[=]", "mode= m", "parents p", "verbose v"]) 1 fun o job w =>
    if o.operands = [] then (Tool.misused job "missing operand" 1, w)
    else
      match o.value? "m", (o.value? "m").bind (Mode.read? w.mask) with
      | some text, none =>
        (Tool.failing job s!"invalid mode {Naming.always text}" 1, w)
      | _, changes =>
        (o.operands.foldl (fun p name => mkdirOne o changes name p) (.start job w)).finish

/-! ## Files -/

def touchOne (o : Options) (name : String) (p : Progress) : Progress :=
  let what := s!"cannot touch {Naming.always name}"
  if name = "-" then p
  else
    match p.world.followFrom (!o.has "h") name with
    | .error f =>
      if o.hasAny ["c", "h"] ∧ f = .notFound then p else p.fault what f
    | .ok (.free l) =>
      if o.hasAny ["c", "h"] then
        if o.has "c" then p
        else p.fault s!"setting times of {Naming.always name}" .notFound
      else if World.namesFolder name then
        p.fault s!"setting times of {Naming.always name}" .notFound
      else
        p.into { p.world with files := p.world.files.create l .empty p.world.fileMode }
    | .ok _ => p

/-- Whether a text is a time stamp: eight to twelve digits and two more behind a dot. -/
def isStamp (text : String) : Bool :=
  let cs := text.toList
  let main := cs.takeWhile Char.isDigit
  let rest := cs.drop main.length
  let two (from_ : Nat) : Nat := readDigits ((main.reverse.drop from_).take 2).reverse
  (main.length = 8 ∨ main.length = 10 ∨ main.length = 12) &&
    (rest = [] || (rest.length = 3 && rest.head? = some '.' && (rest.drop 1).all Char.isDigit &&
      readDigits (rest.drop 1) ≤ 60)) &&
    two 0 ≤ 59 && two 2 ≤ 23 && 1 ≤ two 4 && two 4 ≤ 31 && 1 ≤ two 6 && two 6 ≤ 12

def touch : Tool :=
  .withOptions (.of "acd:fhmr:t:" ["time= time", "no-create c", "date= d", "reference= r",
    "no-dereference h"]) 1 fun o job w =>
    let p := Progress.start job w
    match o.value? "r", o.value? "t" with
    | some name, _ =>
      match w.follow name with
      | .error f => (p.fault s!"failed to get attributes of {Naming.always name}" f).finish
      | .ok (.free _) =>
        (p.fault s!"failed to get attributes of {Naming.always name}" .notFound).finish
      | .ok _ =>
        if o.operands = [] then (Tool.misused job "missing file operand" 1, w)
        else (o.operands.foldl (fun p name => touchOne o name p) p).finish
    | none, some stamp =>
      if !isStamp stamp then
        (Tool.failing job s!"invalid date format {Naming.always stamp}" 1, w)
      else if o.operands = [] then (Tool.misused job "missing file operand" 1, w)
      else (o.operands.foldl (fun p name => touchOne o name p) p).finish
    | none, none =>
      if o.operands = [] then (Tool.misused job "missing file operand" 1, w)
      else (o.operands.foldl (fun p name => touchOne o name p) p).finish

/-! ## Lengths -/

/-- How a length is given: as it is, or against the length that a file has. -/
inductive LengthKind
  | exactly
  | more
  | less
  | atMost
  | atLeast
  | downTo
  | upTo
  deriving DecidableEq, Repr

structure Length where
  kind : LengthKind
  amount : Nat

/-- Why a text is no length: a complaint, which may be one about how the tool was called. -/
inductive LengthFault
  | refused (message : String)
  | misused (message : String)

def Length.read (text : String) : Except LengthFault Length := do
  let cs := text.toList.dropWhile Amount.isSpace
  let (marked, cs) := match cs with
    | '<' :: rest => (some LengthKind.atMost, rest)
    | '>' :: rest => (some .atLeast, rest)
    | '/' :: rest => (some .downTo, rest)
    | '%' :: rest => (some .upTo, rest)
    | cs => (none, cs)
  let cs := cs.dropWhile Amount.isSpace
  let (signed, digits) := match cs with
    | '+' :: rest => (some LengthKind.more, rest)
    | '-' :: rest => (some .less, rest)
    | cs => (none, cs)
  if marked.isSome ∧ signed.isSome then throw (.misused "multiple relative modifiers specified")
  let kind := (marked.or signed).getD .exactly
  let most := if kind = .less then Amount.largestSigned + 1 else Amount.largestSigned
  let isNumber : Bool := match digits.head? with
    | some '+' => false
    | some c => signed.isNone || c.isDigit
    | none => false
  match if isNumber then Amount.within 0 most "KMGTPEZYkmgt0" (String.ofList digits)
    else .error .malformed with
  | .error .malformed => throw (.refused s!"Invalid number: {Naming.literal (String.ofList cs)}")
  | .error _ =>
    throw (.refused s!"Invalid number: {Naming.literal (String.ofList cs)}: {tooLarge}")
  | .ok n =>
    if n = 0 ∧ (kind = .downTo ∨ kind = .upTo) then throw (.refused "division by zero")
    else return ⟨kind, n⟩
where
  tooLarge : String := "Value too large for defined data type"

def Length.of (l : Length) (old : Nat) : Nat :=
  match l.kind with
  | .exactly => l.amount
  | .more => old + l.amount
  | .less => old - l.amount
  | .atMost => min old l.amount
  | .atLeast => max old l.amount
  | .downTo => old / l.amount * l.amount
  | .upTo => (old + l.amount - 1) / l.amount * l.amount

/-- Bytes cut to a length, or filled up with null bytes. -/
def resized (bytes : ByteArray) (length : Nat) : ByteArray :=
  if length ≤ bytes.size then Bytes.slice bytes 0 length
  else bytes ++ ⟨Array.replicate (length - bytes.size) 0⟩

def longestFile : Nat := Nat.pow 2 44 - 4096

def refuseLength (name : String) (length : Nat) (p : Progress) : Progress :=
  if Amount.largestSigned < length then
    p.complain s!"overflow extending size of file {Naming.always name}"
  else p.complain s!"failed to truncate {Naming.always name} at {length} bytes: File too large"

def truncateOne (o : Options) (length : Nat → Nat) (name : String) (p : Progress) : Progress :=
  let what := s!"cannot open {Naming.always name} for writing"
  match p.world.follow name with
  | .error f => if o.has "c" ∧ f = .notFound then p else p.fault what f
  | .ok (.free l) =>
    if o.has "c" then p
    else if World.namesFolder name then p.fault what .isFolder
    else
      let made (bytes : ByteArray) : World :=
        { p.world with files := p.world.files.create l bytes p.world.fileMode }
      if longestFile < length 0 then refuseLength name (length 0) (p.into (made .empty))
      else p.into (made (resized .empty (length 0)))
  | .ok (.file _ f) =>
    let n := length f.bytes.size
    if longestFile < n then refuseLength name n p
    else
      p.into { p.world with files := p.world.files.rewrite f.identity fun f =>
        { f with bytes := resized f.bytes n } }
  | .ok (.folder _) => p.fault what .isFolder
  | .ok (.link ..) => p.fault what .tooManyLinks
  | .ok (.device ..) => p.fault s!"failed to truncate {Naming.always name}" .invalid

def truncate : Tool :=
  .withOptions (.of "cor:s:" ["no-create c", "io-blocks o", "reference= r", "size= s"]) 1
    fun o job w =>
      let run (length : Nat → Nat) : ToolEnd × World :=
        if o.operands = [] then (Tool.misused job "missing file operand" 1, w)
        else
          (o.operands.foldl (fun p name => truncateOne o length name p) (.start job w)).finish
      let size : Except LengthFault (Option Length) := (o.value? "s").mapM Length.read
      match size, o.value? "r" with
      | .error (.refused message), _ => (Tool.failing job message 1, w)
      | .error (.misused message), _ => (Tool.misused job message 1, w)
      | .ok none, none =>
        (Tool.misused job "you must specify either '--size' or '--reference'" 1, w)
      | .ok (some l), none =>
        let unit := if o.has "o" then Details.blockSize else 1
        run (Length.of { l with amount := unit * l.amount })
      | .ok size, some name =>
        if size.any (·.kind = .exactly) then
          (Tool.misused job "you must specify a relative '--size' with '--reference'" 1, w)
        else if o.has "o" ∧ size.isNone then
          (Tool.misused job "'--io-blocks' was specified but '--size' was not" 1, w)
        else
          match w.follow name with
          | .ok (.file _ f) => run fun _ => (size.map fun l => l.of f.bytes.size).getD f.bytes.size
          | .ok (.folder _) =>
            let whole := Details.blockSize
            run fun _ => (size.map fun l => l.of whole).getD whole
          | .ok (.device ..) => run fun _ => (size.map fun l => l.of 0).getD 0
          | .error fault =>
            (Tool.failing job s!"cannot stat {Naming.always name}: {fault.wording}" 1, w)
          | _ =>
            (Tool.failing job s!"cannot stat {Naming.always name}: No such file or directory" 1, w)

end CommandShell.Making
