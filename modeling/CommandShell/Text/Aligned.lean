/-!
# Numbers in columns

A number is moved to the right end of its column; one that is too wide is written in full.
-/
namespace CommandShell.Text

/-- A number with blanks in front of it up to a width. -/
def aligned (width n : Nat) : String :=
  let digits := toString n
  String.ofList (List.replicate (width - digits.length) ' ') ++ digits

end CommandShell.Text
