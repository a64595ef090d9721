import CommandShell.Programs.Progress

/-!
# Parts of paths

The last name of a path, and what stands in front of it.
-/
namespace CommandShell.Names
open NameText

/-- The text without an ending, unless nothing would be left. -/
def withoutSuffix (name ending : String) : String :=
  if name ≠ ending ∧ ending.toList <:+ name.toList then
    String.ofList (name.toList.take (name.length - ending.length))
  else name

def lastName (ending : Option String) (path : String) : String :=
  let name := last path
  match ending with
  | some ending => if name.toList.head? = some '/' then name else withoutSuffix name ending
  | none => name

/-- Texts, each with a line feed or a null character behind it. -/
def lined (zero : Bool) (texts : List String) : ByteArray :=
  Bytes.ofText (String.join (texts.map (· ++ if zero then "\x00" else "\n")))

def basename : Tool :=
  .withLeadingOptions (.of "as:z" ["multiple a", "suffix= s", "zero z"]) 1 fun o job w =>
    let zero := o.has "z"
    let answer (texts : List String) : ToolEnd × World :=
      (.of [] (lined zero texts) 0 job.input.bytes, w)
    if o.operands = [] then (Tool.misused job "missing operand" 1, w)
    else if o.hasAny ["a", "s"] then answer (o.operands.map (lastName (o.value? "s")))
    else
      match o.operands with
      | [path] => answer [lastName none path]
      | [path, ending] => answer [lastName (some ending) path]
      | _ =>
        let extra := Naming.literal (o.operands.getD 2 "")
        (Tool.misused job s!"extra operand {extra}" 1, w)

def dirname : Tool :=
  .withLeadingOptions (.of "z" ["zero z"]) 1 fun o job w =>
    if o.operands = [] then (Tool.misused job "missing operand" 1, w)
    else (.of [] (lined (o.has "z") (o.operands.map above)) 0 job.input.bytes, w)

end CommandShell.Names
