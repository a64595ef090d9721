import CommandShell.Starting
import CommandShell.Programs.Toolbox

/-!
# Sample tools

A small toolbox whose tools are defined here in full, and a spawner for it. A few names stand for
the ways in which starting a program can fail.
-/
namespace CommandShell.Sample
open Bytes

def echo : Tool := .filter fun args _ => ofText (String.intercalate " " args ++ "\n")

/-- Files that cannot be read are passed over and make the tool fail in the end. -/
def cat : Tool := fun job w =>
  match job.args with
  | [] => (.of [] job.input.bytes 0 .empty, w)
  | args =>
    let found := args.map w.contents
    (.of [] (concat (found.filterMap Except.toOption)) (if found.all Except.isOk then 0 else 1)
      job.input.bytes, w)

/-- The lines in the order of their bytes, the line feeds at their ends included. -/
def sort : Tool := .filter fun args input =>
  let increasing := sorted ((lines input).map (· ++ [lineFeed]))
  join (if args = ["-r"] then increasing.reverse else increasing)

def first : Tool := .filter fun args input =>
  let count := readInt (args.headD "0")
  let all := lines input
  unlines (if 0 ≤ count then all.take count.toNat else all.take (all.length - (-count).toNat))

def count : Tool := .filter fun _ input =>
  ofText (toString (input.toList.filter (· = lineFeed)).length ++ "\n")

def upper : Tool := .filter fun _ input => mapBytes toUpper input

def hex : Tool := .filter fun args _ => (ofHex (String.join args).toList).toByteArray

def args : Tool := .filter fun args _ =>
  ofText (String.join (args.map fun arg => "[" ++ arg ++ "]\n"))

def status : Tool := fun job w =>
  (.of [] job.input.bytes (readInt (job.args.headD "0")) .empty, w)

def null : Tool := .filter fun _ _ => .empty

def tool? : String → Option Tool
  | "echo" => some echo
  | "cat" => some cat
  | "sort" => some sort
  | "first" => some first
  | "count" => some count
  | "upper" => some upper
  | "hex" => some hex
  | "args" => some args
  | "status" => some status
  | "null" => some null
  | _ => none

def detached (args : List String) : Process := ⟨none, true, false, readInt (args.headD "0")⟩

def failure? : List String → Option SpawnFault
  | [] => some nameMissing
  | "interrupt" :: _ => some (.escaped .interrupt)
  | "spawnfail" :: words => some (.refused "spawnfail" (String.intercalate " " words))
  | "oserror" :: words => some (.escaped (.system (.plain (String.intercalate " " words))))
  | "oserrno" :: number :: words =>
    some (.escaped (.system (.numbered (readInt number) (String.intercalate " " words))))
  | _ => none

def spawner : Spawner := fun argv stdin w =>
  match failure? argv, argv with
  | some fault, _ => (.error fault, w)
  | none, [] => (.error nameMissing, w)
  | none, "detached" :: args => (.ok (detached args), w)
  | none, program :: args =>
    match tool? program with
    | none => (.error (.refused program "command not found"), w)
    | some tool =>
      let ended := tool ⟨program, args, [], stdin.input, none⟩ w
      (.ok (.ofTool stdin ended.1), ended.2)

end CommandShell.Sample
