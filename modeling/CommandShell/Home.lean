import CommandShell.Path

/-!
# Home folders

A leading tilde stands for a home folder: alone for one's own, with a name for that of a user. The
home of an unknown user is not known, and a text that asks for it stays as it is.
-/
namespace CommandShell

/-- Who has which home folder: what the environment says about one's own, what the user database
says about it, and what it says about users by their names. -/
structure Homes where
  environment : Option String
  database : Option String
  users : List (String × String)

namespace Homes

def unknown : Homes := ⟨none, none, []⟩

/-- The home folder of a user; the empty name is one's own. -/
def of (homes : Homes) (user : String) : Option String :=
  if user = "" then homes.environment.or homes.database else homes.users.lookup user

end Homes

def dropTrailingSlashes (s : String) : String :=
  String.ofList (s.toList.reverse.dropWhile (· == '/')).reverse

/-- Replaces the tilde and the name after it by the home folder that they stand for. -/
def expandTilde (homes : Homes) (s : String) : String :=
  match s.toList with
  | '~' :: rest =>
    let user := String.ofList (rest.takeWhile (· != '/'))
    match homes.of user with
    | none => s
    | some folder =>
      let expanded := dropTrailingSlashes folder ++ String.ofList (rest.dropWhile (· != '/'))
      if expanded = "" then "/" else expanded
  | _ => s

/-- Why a path has no home folder: nobody knows it, or no user can have that name. -/
inductive HomeFault
  | unknown
  | nullCharacter
  deriving DecidableEq, Repr

def HomeFault.message : HomeFault → String
  | unknown => "Could not determine home directory."
  | nullCharacter => "embedded null byte"

def startsWithTilde (s : String) : Bool := s.toList.head? == some '~'

/-- A relative path whose first name starts with a tilde, from the home folder on. -/
def Path.expandHome (homes : Homes) (p : Path) : Except HomeFault Path :=
  match p.anchor, p.parts with
  | .here, first :: rest =>
    if startsWithTilde first then
      if first.contains '\x00' then .error .nullCharacter
      else
        let folder := expandTilde homes first
        if startsWithTilde folder then .error .unknown
        else
          let base := Path.ofString folder
          .ok { base with parts := base.parts ++ rest }
    else .ok p
  | _, _ => .ok p

end CommandShell
