import CommandShell.Programs.Naming
import CommandShell.Programs.Options

/-!
# Operands that are read

A tool that reads gets the contents of its operands, or of its input if it has none. A lone hyphen
stands for the input, which can be read only once.
-/
namespace CommandShell

inductive SourceKind
  | input (kind : InputKind)
  | file (identity : Nat)
  | folder
  | device
  | missing
  deriving DecidableEq

/-- An operand and what it holds. -/
structure Source where
  name : String
  kind : SourceKind
  contents : Except FileFault ByteArray

namespace Source

def inputPaths : List String := ["/dev/stdin", "/dev/fd/0", "/proc/self/fd/0"]

def isInput (name : String) : Bool := name == "-" || inputPaths.contains name

def kindOf : Spot → SourceKind
  | .free _ => .missing
  | .link .. => .missing
  | .folder _ => .folder
  | .device .. => .device
  | .file _ f => .file f.identity

def ofName (w : World) (name : String) : Source :=
  match w.follow name with
  | .error fault => ⟨name, .missing, .error fault⟩
  | .ok spot => ⟨name, kindOf spot, w.readAt spot⟩

/-- What operands hold. The first that stands for the input uses it up. -/
def ofOperands (w : World) (input : Input) : List String → List Source
  | [] => []
  | name :: rest =>
    if isInput name then
      ⟨name, .input input.kind, .ok input.bytes⟩ :: ofOperands w { input with bytes := .empty } rest
    else ofName w name :: ofOperands w input rest

def identity? (s : Source) : Option Nat :=
  match s.kind with
  | .file identity => some identity
  | .input (.file identity) => some identity
  | _ => none

/-- The names in a list in which each ends with a null byte. -/
def namesIn (bytes : ByteArray) : List String :=
  let pieces := Bytes.pieces (Bytes.mapBytes (fun b => if b = 0 then 10 else if b = 10 then 0
    else b)
    bytes)
  let names := if pieces.getLast? = some [] then pieces.dropLast else pieces
  names.map fun piece =>
    let name := piece.map fun b => if b = 0 then (10 : UInt8) else b
    (String.fromUTF8? name.toByteArray).getD
      (String.ofList (name.map fun b => Char.ofNat b.toNat))

/-- The names of what is to be read: the operands, the names in a list if one is given instead of
them, or the input if there are neither. -/
def listed (o : Options) (input : Input) (w : World) : Except String (List String) :=
  match o.value? "files0-from", o.operands with
  | none, [] => .ok ["-"]
  | none, operands => .ok operands
  | some _, extra :: _ => .error s!"extra operand {Naming.literal extra}"
  | some name, [] =>
    match (ofOperands w input [name]).map Source.contents with
    | [.ok bytes] => .ok (namesIn bytes)
    | [.error fault] => .error s!"cannot open {Naming.literal name} for reading: {fault.wording}"
    | _ => .ok []

/-- What can be read, with its name. -/
def found (sources : List Source) : List (String × ByteArray) :=
  sources.filterMap fun s => s.contents.toOption.map fun bytes => (s.name, bytes)

/-- The bytes that could be read, one after the other. -/
def joined (sources : List Source) : ByteArray := Bytes.concat ((found sources).map Prod.snd)

def readable (sources : List Source) : Bool := sources.all (·.contents.isOk)

def status (sources : List Source) : Int := if readable sources then 0 else 1

def isMissing (s : Source) : Bool := s.kind = .missing

def complaint (tool : String) (s : Source) : Option String :=
  match s.contents with
  | .ok _ => none
  | .error fault => some s!"{tool}: {Naming.ifNeeded s.name}: {fault.wording}"

def complaints (tool : String) (sources : List Source) : List String :=
  sources.filterMap (complaint tool)

end Source

/-- What a reader of operands answers. -/
structure Answer where
  reports : List String
  output : ByteArray
  status : Int

namespace Tool

/-- What is left of the input after operands have been read. -/
def leftOver (job : Job) (operands : List String) : ByteArray :=
  if operands.any Source.isInput then .empty else job.input.bytes

def operandsOrInput (operands : List String) : List String :=
  if operands = [] then ["-"] else operands

/-- A tool that reads its operands, or its input if it has none. -/
def reading (f : Options → Job → List Source → Answer) (o : Options) : Tool := fun job w =>
  let operands := operandsOrInput o.operands
  let answer := f o job (Source.ofOperands w job.input operands)
  (.of answer.reports answer.output answer.status (leftOver job operands), w)

def reader (table : OptionTable) (refused : Int) (f : Options → Job → List Source → Answer) :
    Tool := withOptions table refused (reading f)

/-- The end of a tool that fails with a complaint of its own. -/
def failing (job : Job) (message : String) (status : Int) : ToolEnd :=
  .of [s!"{job.name}: {message}"] .empty status job.input.bytes

end Tool
end CommandShell
