import CommandShell.Programs.Script.Letters
import CommandShell.Programs.Script.Variables

/-!
# Settings of scripts

Options that are switched on and off, limits on what may be used, and aliases: names that stand for
texts at the start of a command.
-/
namespace CommandShell.Script.Builtin
open Bytes

/-! ## Options -/

/-- Options in the order in which they are shown. Two have no letter that can be seen. -/
def optionNames : List (Char × String) :=
  [('e', "errexit"), ('f', "noglob"), ('I', "ignoreeof"), ('i', "interactive"), ('m', "monitor"),
    ('n', "noexec"), ('s', "stdin"), ('x', "xtrace"), ('v', "verbose"), ('V', "vi"),
    ('E', "emacs"), ('C', "noclobber"), ('a', "allexport"), ('b', "notify"), ('u', "nounset"),
    ('p', "privileged"), ('\x01', "nolog"), ('\x02', "debug")]

def withOption (on : Bool) (letter : Char) (options : List Char) : List Char :=
  (optionNames.map Prod.fst).filter fun c => if c = letter then on else options.contains c

/-- Of the two ways of editing only one is on, if they are switched by their letters. -/
def withLetter (on : Bool) (letter : Char) (options : List Char) : List Char :=
  let options := withOption on letter options
  match on, letter with
  | true, 'V' => withOption false 'E' options
  | true, 'E' => withOption false 'V' options
  | _, _ => options

def withoutTerminal (s : State) : State :=
  if s.hasOption 'm' then
    { s with options := withOption false 'm' s.options }.complain
      "can't access tty; job control turned off"
  else s

def switch (on : Bool) (letters : List Char) (s : State) : Except String State :=
  letters.foldlM (fun (s : State) c =>
    if ' ' < c ∧ (optionNames.lookup c).isSome then
      .ok { s with options := withLetter on c s.options }
    else .error s!"Illegal option -{c}") s

def switchNamed (on : Bool) (name : Chars) (s : State) : Except String State :=
  match optionNames.find? fun e => e.2.toList = name with
  | some (c, _) => .ok { s with options := withOption on c s.options }
  | none => .error s!"Illegal option -o {textOf name}"

def optionListing (s : State) : ByteArray :=
  concat ("Current option settings\n".toByteArray :: optionNames.map fun (c, name) =>
    let pad := String.ofList (List.replicate (16 - name.length) ' ')
    ofText (name ++ pad ++ (if s.hasOption c then "on" else "off") ++ "\n"))

/-- The commands that switch all options to what they are. -/
def optionCommands (s : State) : ByteArray :=
  concat (optionNames.map fun (c, name) =>
    ofText ("set " ++ (if s.hasOption c then "-o " else "+o ") ++ name ++ "\n"))

/-- Reads the options in front; the rest, if anything says that there is one. -/
def readOptions : List Chars → State → Except String (Option (List Chars) × State)
  | [], s => .ok (none, s)
  | word :: rest, s =>
    match word with
    | ['-', '-'] => .ok (some rest, s)
    | ['-'] => .ok (if rest = [] then none else some rest,
        { s with options := (s.options.filter (· != 'x')).filter (· != 'v') })
    | ['-', 'o'] =>
      match rest with
      | [] => .ok (none, s.write (optionListing s))
      | name :: rest => do readOptions rest (← switchNamed true name s)
    | ['+', 'o'] =>
      match rest with
      | [] => .ok (none, s.write (optionCommands s))
      | name :: rest => do readOptions rest (← switchNamed false name s)
    | '-' :: letters => do readOptions rest (← switch true letters s)
    | '+' :: letters => do readOptions rest (← switch false letters s)
    | word => .ok (some (word :: rest), s)

def set_ : Builtin := fun args s => do
  if args = [] then
    return s.succeed.write (listing "" (s.values.filter fun e => e.2.value.isSome))
  else
    let (rest, s) ← readOptions args s.succeed
    let s := withoutTerminal s
    match rest with
    | none => return s
    | some args => return { s with args, optionOffset := 0 }

/-! ## Limits -/

/-- What can be limited: the letter, the name, the unit, and the limit at the start. -/
def limitTable : List (Char × String × Nat × Limit) :=
  let endless : Limit := ⟨none, none⟩
  [('t', "time(seconds)", 1, endless), ('f', "file(blocks)", 512, endless),
    ('d', "data(kbytes)", 1024, endless), ('s', "stack(kbytes)", 1024, ⟨some 8388608, none⟩),
    ('c', "coredump(blocks)", 512, ⟨some 0, none⟩), ('m', "memory(kbytes)", 1024, endless),
    ('l', "locked memory(kbytes)", 1024, ⟨some 8388608, some 8388608⟩),
    ('p', "process", 1, endless), ('n', "nofiles", 1, ⟨some 1048576, some 1048576⟩),
    ('v', "vmemory(kbytes)", 1024, endless), ('w', "locks", 1, endless),
    ('r', "rtprio", 1, ⟨some 0, some 0⟩)]

def ulimit : Builtin := withLetters "HSatfdscmlpnvwr" fun l s => do
  let kinds := (l.given.map Prod.fst).filter fun c => "HS".contains c
  let onlyHard := kinds.getLast? = some 'H'
  let what := ((l.given.map Prod.fst).filter fun c => !"HSa".contains c).getLast?.getD 'f'
  let limitOf (e : Char × String × Nat × Limit) : Limit := (s.limits.lookup e.1).getD e.2.2.2
  let shown (e : Char × String × Nat × Limit) : String :=
    match if onlyHard then (limitOf e).hard else (limitOf e).soft with
    | none => "unlimited"
    | some n => toString (n / e.2.2.1)
  match l.operands with
  | [] =>
    if l.has 'a' then
      return limitTable.foldl (fun s e =>
        let pad := String.ofList (List.replicate (20 - e.2.1.length) ' ')
        s.print (e.2.1 ++ pad ++ " " ++ shown e)) s.succeed
    else
      match limitTable.find? (·.1 = what) with
      | some e => return s.succeed.print (shown e)
      | none => return s
  | word :: more =>
    if l.has 'a' ∨ more ≠ [] then throw "too many arguments"
    match limitTable.find? (·.1 = what) with
    | none => return s
    | some e =>
      let unit := e.2.2.1
      let value ← if word = "unlimited".toList then pure none
        else if word.all Char.isDigit then pure (some (readDigits word * unit))
        else throw "bad number"
      let old := limitOf e
      let new : Limit := match kinds.getLast? with
        | some 'H' => { old with hard := value }
        | some _ => { old with soft := value }
        | none => ⟨value, value⟩
      let fits : Bool := match new.soft, new.hard with
        | some a, some b => a ≤ b
        | none, some _ => false
        | _, none => true
      if !fits then throw "error setting limit (Invalid argument)"
      return { s.succeed with limits := (what, new) :: s.limits.filter (·.1 ≠ what) }

/-! ## Aliases -/

/-- The order in which aliases are shown; those of one number are shown in the order in which they
were made. -/
def aliasTurn (name : Chars) : Nat :=
  name.foldl (fun n c => n + c.toNat) (16 * (name.headD '\x00').toNat) % 39

def aliasLine (e : Chars × Chars) : String := textOf (e.1 ++ '=' :: quotedValue e.2)

/-- Makes an alias; one that is there keeps its turn. -/
def makeAlias (name text : Chars) (s : State) : State :=
  if s.aliases.any (·.1 = name) then
    { s with aliases := s.aliases.map fun e => if e.1 = name then (name, text) else e }
  else { s with aliases := s.aliases ++ [(name, text)] }

def alias_ : Builtin := fun args s =>
  match args with
  | [] =>
    let shown := s.aliases.mergeSort fun a b => aliasTurn a.1 ≤ aliasTurn b.1
    .ok (shown.foldl (fun s e => s.print (aliasLine e)) s.succeed)
  | args =>
    .ok (args.foldl (fun s word =>
      let name := word.take 1 ++ (word.drop 1).takeWhile (· != '=')
      if name.length < word.length then makeAlias name (word.drop (name.length + 1)) s
      else
        match s.aliases.find? (·.1 = word) with
        | some e => s.print (aliasLine e)
        | none => (s.report s!"alias: {textOf word} not found\n").ends 1) s.succeed)

def unalias : Builtin := withLetters "a" fun l s =>
  if l.has 'a' then .ok { s.succeed with aliases := [] }
  else
    .ok (l.operands.foldl (fun s name =>
      if s.aliases.any (·.1 = name) then
        { s with aliases := s.aliases.filter (·.1 ≠ name) }
      else (s.report s!"unalias: {textOf name} not found\n").ends 1) s.succeed)

end CommandShell.Script.Builtin
