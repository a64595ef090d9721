import CommandShell.Programs.Amount
import CommandShell.Programs.Progress
import CommandShell.Programs.Sources

/-!
# Owners

The tools that give files to somebody else. The world does not keep to whom a file belongs:
everything belongs to the one user that there is, and others are only known by name.
-/
namespace CommandShell.Owners
open NameText

def known : List String :=
  ["root", "daemon", "bin", "sys", "sync", "games", "man", "lp", "mail", "news", "uucp", "proxy",
    "www-data", "backup", "list", "irc", "nobody", "nogroup", "adm", "tty", "disk", "dialout",
    "fax",
    "voice", "cdrom", "floppy", "tape", "sudo", "audio", "dip", "operator", "src", "shadow", "utmp",
    "video", "sasl", "plugdev", "staff", "users", "_apt"]

def groupsOnly : List String :=
  ["nogroup", "adm", "tty", "disk", "dialout", "fax", "voice", "cdrom", "floppy", "tape", "sudo",
    "audio", "dip", "operator", "src", "shadow", "utmp", "video", "sasl", "plugdev", "staff",
    "users"]

def usersOnly : List String := ["sync", "nobody", "_apt"]

/-- Whether a text is the number of a user or a group; the greatest number stands for none. -/
def isNumber (text : String) : Bool :=
  match Amount.read? "" text with
  | some n => n < 4294967295 && text.toList.head?.any fun c => c.isDigit || c == '+' || c == ' '
  | none => false

def isUser (text : String) : Bool :=
  isNumber text || (known.contains text && !groupsOnly.contains text)

def isGroup (text : String) : Bool :=
  isNumber text || (known.contains text && !usersOnly.contains text)

/-- A name, or a number without signs and zeros in front of it. -/
def canonical (text : String) : String :=
  match isNumber text, Amount.read? "" text with
  | true, some n => toString n
  | _, _ => text

/-- A user and a group, either of which may be missing. -/
abbrev Owner := Option String × Option String

/-- Reads a user and a group with a sign between them. -/
def readOwnerAt (sign : Char) (text : String) : Except String Owner :=
  let cs := text.toList
  let user := String.ofList (cs.takeWhile (· ≠ sign))
  let group := String.ofList (cs.drop (user.length + 1))
  let hasGroup : Bool := cs.contains sign
  let shown := Naming.literal text
  if user ≠ "" ∧ !isUser user then .error s!"invalid user: {shown}"
  else if hasGroup && group = "" && user ≠ "" && isNumber user then .error s!"invalid spec: {shown}"
  else if hasGroup ∧ group ≠ "" ∧ !isGroup group then .error s!"invalid group: {shown}"
  else
    .ok (if user = "" then none else some (canonical user),
      if !hasGroup then none else if group = "" then (if user = "" then none else some user)
      else some (canonical group))

/-- Reads a user and a group with a colon between them; a dot is taken for one that is missing. -/
def readOwner (text : String) : Except String Owner :=
  match readOwnerAt ':' text with
  | .error message =>
    if text.toList.contains ':' || !text.toList.contains '.' then .error message
    else (readOwnerAt '.' text).mapError fun _ => message
  | .ok owner => .ok owner

/-- What is changed, and how it is told. -/
structure Change where
  user : Option String
  group : Option String
  /-- Whether it is groups that are spoken of. -/
  ofGroups : Bool
  told : Bool
  toldIfNew : Bool
  silent : Bool
  recursive : Bool
  follows : Bool

/-- Whether a name stands for the one to whom all files belong. -/
def isRoot (name : Option String) : Bool := name.all fun n => n = "root" || canonical n = "0"

def Change.isIdle (c : Change) : Bool := c.user.isNone && c.group.isNone

/-- What is spoken of when a file is given away. -/
def Change.what (c : Change) : String :=
  if c.ofGroups && c.group.isSome then "group" else "ownership"

/-- To whom files go, as it is shown. -/
def Change.target (c : Change) : String :=
  let user := c.user.getD ""
  match c.group with
  | none => user
  | some group => if c.ofGroups then group else s!"{user}:{group}"

/-- What is said about a file that has been given away. -/
def Change.remark (c : Change) (shown : String) : String :=
  let old := if c.ofGroups || c.group.isNone then "root" else "root:root"
  if c.isIdle then s!"{c.what} of {shown} retained"
  else if isRoot c.user && isRoot c.group then s!"{c.what} of {shown} retained as {old}"
  else s!"changed {c.what} of {shown} from {old} to {c.target}"

def Change.tell (c : Change) (shown : String) (p : Progress) : Progress :=
  let isNew := !(isRoot c.user && isRoot c.group)
  if c.told || (c.toldIfNew && isNew) then p.print (c.remark (Naming.always shown)) else p

def Change.refuse (c : Change) (shown message : String) (p : Progress) : Progress :=
  let p := if c.silent then { p with status := 1 } else p.complain message
  if c.told then
    p.print (if c.isIdle then s!"failed to change {c.what} of {Naming.always shown}"
      else s!"failed to change {c.what} of {Naming.always shown} to {c.target}")
  else p

/-- Gives away a location, after all that is below it. -/
def Change.reach (c : Change) : Nat → String → Location → Progress → Progress
  | 0, _, _, p => p
  | fuel + 1, shown, l, p =>
    let p := match p.world.files.get? l with
      | some (.folder _) =>
        if c.recursive then
          (p.world.files.names l).foldl (fun p name =>
            c.reach fuel (joined shown name) (l ++ [name]) p) p
        else p
      | _ => p
    c.tell shown p

def Change.one (c : Change) (name : String) (p : Progress) : Progress :=
  let fail (message : String) : Progress := c.refuse name message p
  let fuel := p.world.files.entries.length + 1
  match p.world.followFrom c.follows name with
  | .error f => fail s!"cannot access {Naming.always name}: {f.wording}"
  | .ok (.free _) =>
    match p.world.sight name with
    | .ok (.link ..) =>
      fail s!"cannot dereference {Naming.always name}: {FileFault.notFound.wording}"
    | _ => fail s!"cannot access {Naming.always name}: {FileFault.notFound.wording}"
  | .ok (.folder place) => c.reach fuel name place.path p
  | .ok (.file l _) => c.reach fuel name l p
  | .ok (.device l _) => c.reach fuel name l p
  | .ok (.link l _) => c.reach fuel name l p

def table : OptionTable :=
  .of "HLPRcfhv" ["recursive R", "changes c", "dereference", "from=", "no-dereference h",
    "no-preserve-root", "preserve-root", "quiet f", "silent f", "reference=", "verbose v"]

/-- A tool that reads to whom files go from its first operand. -/
def tool (ofGroups : Bool) (read : String → Except String Owner) : Tool :=
  .withOptions table 1 fun o job w =>
    let run (user group : Option String) (names : List String) : ToolEnd × World :=
      let c : Change :=
        { user, group, ofGroups
          told := o.has "v"
          toldIfNew := o.has "c"
          silent := o.has "f"
          recursive := o.has "R"
          follows := !o.has "h" }
      (names.foldl (fun p name => c.one name p) (.start job w)).finish
    match o.value? "reference", o.operands with
    | _, [] => (Tool.misused job "missing operand" 1, w)
    | some name, names =>
      let refused (fault : FileFault) : ToolEnd × World :=
        let shown := Naming.always name
        (Tool.failing job s!"failed to get attributes of {shown}: {fault.wording}" 1, w)
      match w.follow name with
      | .ok (.free _) => refused .notFound
      | .error fault => refused fault
      | .ok _ => run (if ofGroups then none else some "root") (some "root") names
    | none, [one] => (Tool.misused job s!"missing operand after {Naming.literal one}" 1, w)
    | none, text :: names =>
      match read text with
      | .error message => (Tool.failing job message 1, w)
      | .ok (user, group) => run user group names

def chown : Tool := tool false readOwner

def chgrp : Tool := tool true fun text =>
  if text = "" then .ok (none, none)
  else if isGroup text then .ok (none, some text)
  else .error s!"invalid group: {Naming.literal text}"

end CommandShell.Owners
