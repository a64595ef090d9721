import CommandShell.Home
import CommandShell.Registry

/-!
# Settings

What the environment says about the shell: where the history is stored and whether the journal
goes into detail. A variable that is empty counts as missing.
-/
namespace CommandShell
open Text

structure Settings where
  historyPath : Option Path
  prompt : String
  debug : Bool
  banner : String
  deriving DecidableEq, Repr

namespace Settings

abbrev Environment := Table String

def folderName : String := "pipeshell"

def historyName : String := "history.txt"

def usualPrompt : String := ">> "

def usualBanner : String := "Welcome to pipeshell! Type 'help' for builtins, 'exit' to leave."

def valueOf (env : Environment) (name : String) : Option String :=
  (env.lookup name).filter (· ≠ "")

def configFolder (env : Environment) : Option Path :=
  match valueOf env "XDG_CONFIG_HOME", valueOf env "HOME" with
  | some base, _ => some ((Path.ofString base).child folderName)
  | none, some home => some (((Path.ofString home).child ".config").child folderName)
  | none, none => none

def lowered (s : String) : String := String.ofList (s.toList.map Char.toLower)

/-- The words for yes, with blanks around them and in any case. -/
def isTruthy (s : String) : Bool := lowered (trim s) ∈ ["1", "true", "yes", "on"]

/-- Where the history is stored. A path that the environment gives may start with a tilde, which
stands for the home folder of the process. -/
def historyPathIn (homes : Homes) (env : Environment) : Except HomeFault (Option Path) :=
  match valueOf env "PIPESHELL_HISTORY" with
  | some override => ((Path.ofString override).expandHome homes).map some
  | none => .ok ((configFolder env).map (·.child historyName))

def load (homes : Homes) (env : Environment) : Except HomeFault Settings :=
  (historyPathIn homes env).map fun historyPath =>
    { historyPath
      prompt := usualPrompt
      debug := isTruthy ((env.lookup "PIPESHELL_DEBUG").getD "")
      banner := usualBanner }

end Settings
end CommandShell
