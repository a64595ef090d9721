import CommandShell.Programs.Printing.Escapes
import CommandShell.Programs.Toolbox

/-!
# Words as they are

The words of a tool with blanks between them, and a line feed at the end unless it is left out.
-/
namespace CommandShell.Echo

def spaced (words : List (List Char)) : List Char := [' '].intercalate words

/-- A text with or without escapes, and its line feed; nothing follows where an escape says so. -/
def spoken (form : Option EscapeForm) (lineEnd : Bool) (words : List (List Char)) : ByteArray :=
  let ending := if lineEnd then ['\n'] else []
  match form with
  | none => charBytes (spaced words ++ ending)
  | some form =>
    match Escaped.expand form (spaced words) with
    | (cs, .done) => charBytes (cs ++ ending)
    | (cs, _) => charBytes cs

def flags? (word : String) : Option (List Char) :=
  match word.toList with
  | '-' :: c :: cs =>
    if (c :: cs).all fun d => d = 'n' ∨ d = 'e' ∨ d = 'E' then some (c :: cs) else none
  | _ => none

/-- Reads the options in front; the last word on escapes counts. -/
def withFlags (escapes lineEnd : Bool) : List String → ByteArray
  | [] => spoken none lineEnd []
  | word :: rest =>
    match flags? word with
    | none =>
      spoken (if escapes then some .spoken else none) lineEnd ((word :: rest).map byteChars)
    | some cs =>
      let last := (cs.filter fun c => c = 'e' ∨ c = 'E').getLast?
      withFlags ((last.map (· == 'e')).getD escapes) (lineEnd && !cs.contains 'n') rest

def echo : Tool := .answer fun args => ([], withFlags false true args, 0)

def scripted (words : List (List Char)) : ByteArray :=
  match words with
  | ['-', 'n'] :: rest => spoken (some .scriptWord) false rest
  | words => spoken (some .scriptWord) true words

end CommandShell.Echo
