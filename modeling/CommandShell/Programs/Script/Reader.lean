import CommandShell.Programs.Script.Syntax

/-!
# Reading scripts

Commands are read from a text one line at a time, so that a line that cannot be read does not keep
those before it from being run. A here-document stands behind the line that asks for it; it is taken
out of the text as soon as it is asked for. Outside single quotes a backslash at the end of a line
joins it to the next.

Where a command can start, a word may be an alias: its text is read in its place. It is no alias
again while that text is being read. Behind a text that ends in a blank the next word may be an
alias too.
-/
namespace CommandShell.Script

inductive Token
  | word (w : Word)
  | redirect (handle : Option Nat) (opening : Opening) (strip : Bool)
  /-- A separator or an operator. -/
  | mark (text : String)
  /-- The end of the text. -/
  | finish

/-- An alias whose text is being read. -/
structure AliasText where
  name : Chars
  /-- How much is still to be read when the text has come to its end. -/
  behind : Nat
  /-- Whether the next word may be an alias too. -/
  continues : Bool

/-- How far reading has come. -/
structure Scan where
  rest : Chars
  line : Nat
  /-- How many lines have been taken out behind the present one. -/
  skipped : Nat
  /-- A token that was read too early. -/
  held : Option Token
  /-- The aliases, and those whose texts are being read, the innermost first. -/
  aliases : List (Chars × Chars)
  texts : List AliasText

abbrev Read := StateT Scan (Except SyntaxFault)

namespace Read

def fail {α : Type} (message : String) : Read α := do
  throw ⟨(← get).line, message⟩

def skipJoins : Nat → Chars → Nat × Chars
  | line, '\\' :: '\n' :: rest => skipJoins (line + 1) rest
  | line, rest => (line, rest)

/-- Takes the next character, whatever it is. -/
def raw? : Read (Option Char) := do
  let s ← get
  match s.rest with
  | [] => return none
  | c :: rest =>
    if c = '\n' then set { s with rest, line := s.line + 1 + s.skipped, skipped := 0 }
    else set { s with rest }
    return some c

def peek? : Read (Option Char) := do
  let s ← get
  let (line, rest) := skipJoins s.line s.rest
  set { s with rest, line }
  return rest.head?

def next? : Read (Option Char) := do
  let _ ← peek?
  raw?

def skip : Read Unit := do
  let _ ← next?

/-- Whether a character comes next, which is then taken. -/
def takes (c : Char) : Read Bool := do
  if (← peek?) = some c then
    skip
    return true
  else return false

/-- Takes characters of a kind; `fuel` bounds their number. -/
def span (kind : Char → Bool) : Nat → Read Chars
  | 0 => return []
  | fuel + 1 => do
    match ← peek? with
    | some c =>
      if kind c then
        skip
        return c :: (← span kind fuel)
      else return []
    | none => return []

def hold (t : Token) : Read Unit := modify fun s => { s with held := some t }

end Read
open Read

/-! ## Words -/

def isGap (c : Char) : Bool := c == ' ' || c == '\t'

def endsWord (c : Char) : Bool := isGap c || "\n;&|<>()".contains c

def backquote : Char := Char.ofNat 96

/-- Puts a part in front of others; texts of one kind become one. -/
def glue (p : Part) (w : Word) : Word :=
  match p, w with
  | .text q a, .text r b :: rest => if q = r then .text q (a ++ b) :: rest else p :: w
  | _, _ => p :: w

/-- Quotes keep a field even if it is empty; only those around all arguments do not. -/
def quoted (inner : Word) : Word :=
  match inner with
  | [.value true ['@'] .plain] => inner
  | _ => glue (.text true []) inner

/-- What quoted parts stand in. -/
inductive Enclosure
  | quotes
  | document
  /-- A word inside braces that are quoted, and whether it is quoted again. -/
  | braces (again : Bool)
  deriving DecidableEq

def singleQuoted : Nat → Read Chars
  | 0 => return []
  | fuel + 1 => do
    match ← raw? with
    | none => fail "Syntax error: Unterminated quoted string"
    | some '\'' => return []
    | some c => return c :: (← singleQuoted fuel)

/-- Takes the text up to a backquote, with the backslashes taken off that do not belong to it. -/
def backquoted (quoted : Bool) : Nat → Read Chars
  | 0 => return []
  | fuel + 1 => do
    match ← next? with
    | none => fail "Syntax error: EOF in backquote substitution"
    | some '\\' =>
      match ← raw? with
      | none => return '\\' :: (← backquoted quoted fuel)
      | some c =>
        if c = '\\' ∨ c = backquote ∨ c = '$' ∨ (quoted ∧ c = '"') then
          return c :: (← backquoted quoted fuel)
        else return '\\' :: c :: (← backquoted quoted fuel)
    | some c => if c = backquote then return [] else return c :: (← backquoted quoted fuel)

/-- The name in braces, and whether its length is asked for; none if there is no name. -/
def braceName : Read (Option (Chars × Bool)) := do
  let length := (← get).rest.length
  let named : Read (Option Chars) := do
    match ← peek? with
    | none => return none
    | some c =>
      if isNameStart c then return some (← span isNameChar length)
      else if c.isDigit then return some (← span Char.isDigit length)
      else return none
  match ← named with
  | some name => return some (name, false)
  | none =>
    match ← peek? with
    | none => return none
    | some '\x7d' => return none
    | some '#' =>
      skip
      match ← named with
      | some name => return some (name, true)
      | none =>
        let before ← get
        match ← next?, ← peek? with
        | some c, some '\x7d' =>
          if c ≠ '\x7d' ∧ isSpecial c then return some ([c], true)
          else
            set before
            return some (['#'], false)
        | _, _ =>
          set before
          return some (['#'], false)
    | some c =>
      skip
      return if isSpecial c then some ([c], false) else none

/-- The sign behind the name in braces. -/
inductive BraceSign
  | close
  | mend (remedy : Remedy) (orEmpty : Bool)
  | trim (atEnd longest : Bool)
  | unknown

def braceSign : Read BraceSign := do
  let trim (atEnd : Bool) (c : Char) : Read BraceSign := do return .trim atEnd (← takes c)
  match ← next? with
  | some '%' => trim true '%'
  | some '#' => trim false '#'
  | some ':' => return sign true (← next?)
  | c => return sign false c
where
  sign (orEmpty : Bool) : Option Char → BraceSign
    | some '\x7d' => .close
    | some '-' => .mend .substitute orEmpty
    | some '=' => .mend .assign orEmpty
    | some '?' => .mend .complain orEmpty
    | some '+' => .mend .replace orEmpty
    | _ => .unknown

/-! ## Tokens -/

/-- The text of a word that is one part without quotes. -/
def Token.plain? : Token → Option String
  | .word [.text false cs] => some (String.ofList cs)
  | _ => none

def keywords : List String :=
  ["!", "case", "do", "done", "elif", "else", "esac", "fi", "for", "if", "in", "then", "until",
    "while", "\x7b", "\x7d"]

def Token.keyword? (t : Token) : Option String :=
  t.plain?.filter keywords.contains

def Token.isMark (t : Token) (text : String) : Bool :=
  match t with
  | .mark m => m == text
  | _ => false

def Token.isKeyword (t : Token) (text : String) : Bool := t.keyword? == some text

def Token.isFinish : Token → Bool
  | .finish => true
  | _ => false

def Token.isCloser (t : Token) : Bool :=
  t.isFinish || t.isMark ")" || t.isMark ";;" ||
    let closing := ["do", "done", "elif", "else", "esac", "fi", "then", "\x7d"]
    (t.keyword?.map closing.contains).getD false

def Token.shown (t : Token) : String :=
  match t with
  | .finish => "end of file"
  | .mark "\n" => "newline"
  | .mark text => s!"\"{text}\""
  | .redirect .. => "redirection"
  | .word _ => (t.keyword?.map fun k => s!"\"{k}\"").getD "word"

def unexpected {α : Type} (t : Token) : Read α :=
  fail s!"Syntax error: {t.shown} unexpected"

def unexpectedFor {α : Type} (t : Token) (wanted : String) : Read α :=
  fail s!"Syntax error: {t.shown} unexpected (expecting {wanted})"

/-- A redirection sign, of which the first character is still to come. -/
def redirectSign (handle : Option Nat) : Read Token := do
  if ← takes '>' then
    if ← takes '>' then return .redirect handle .extend false
    else if ← takes '&' then return .redirect handle .copy false
    else if ← takes '|' then return .redirect handle .overwrite false
    else return .redirect handle .replace false
  else
    skip
    let handle := handle.or (some 0)
    if ← takes '<' then return .redirect handle .document (← takes '-')
    else if ← takes '&' then return .redirect handle .copy false
    else if ← takes '>' then return .redirect handle .readWrite false
    else return .redirect handle .read false

/-- An operator, of which the first character has been taken. -/
def operator (c : Char) : Read Token := do
  let twice (one two : String) : Read Token := do
    return .mark (if ← takes c then two else one)
  match c with
  | '&' => twice "&" "&&"
  | '|' => twice "|" "||"
  | ';' => twice ";" ";;"
  | c => return .mark c.toString

/-- Leaves out blanks and a comment; `fuel` bounds the steps. -/
def skipGaps : Nat → Read Unit
  | 0 => return
  | fuel + 1 => do
    match ← peek? with
    | some '#' => modify fun s => { s with rest := s.rest.dropWhile (· != '\n') }
    | some c =>
      if isGap c then
        skip
        skipGaps fuel
    | none => return

/-! ## Aliases -/

/-- Leaves the texts of aliases that have been read to their ends, and says whether the next word
may be an alias. -/
def leaveTexts : Read Bool := do
  let s ← get
  if s.texts.isEmpty then return false
  else
    let (left, texts) := s.texts.partition fun t => s.rest.length ≤ t.behind
    set { s with texts }
    return left.any (·.continues)

/-- Whether a token is an alias, whose text is then put in front of what is still to be read. -/
def expands (t : Token) : Read Bool := do
  let s ← get
  match t with
  | .word [.text false cs] =>
    match s.aliases.lookup cs with
    | none => return false
    | some text =>
      let behind := s.rest.length
      if s.texts.any fun t => t.name = cs && t.behind ≤ behind then return false
      else
        let continues := (text.getLast?.map isGap).getD false
        let texts := if text = [] then s.texts else ⟨cs, behind, continues⟩ :: s.texts
        set { s with rest := text ++ s.rest, texts }
        return true
  | _ => return false

/-! ## Here-documents -/

/-- The text by which a word, as it is written, ends a here-document. -/
def delimiterOf (w : Word) : Chars :=
  w.flatMap fun
    | .text _ cs => cs
    | .value _ name _ => '$' :: name
    | _ => []

def isQuoted (w : Word) : Bool :=
  w.any fun
    | .text quoted _ => quoted
    | _ => false

/-- The lines of a document up to the one that ends it, how many lines that makes, and the rest;
`fuel` bounds the number of lines. -/
def documentLines (strip : Bool) (delimiter : Chars) : Nat → Chars → Chars × Nat × Chars
  | 0, cs => ([], 0, cs)
  | _, [] => ([], 0, [])
  | fuel + 1, cs =>
    let cs := if strip then cs.dropWhile (· == '\t') else cs
    let line := cs.takeWhile (· != '\n')
    let rest := cs.drop (line.length + 1)
    if line = delimiter then ([], 1, rest)
    else
      let (more, count, rest) := documentLines strip delimiter fuel rest
      (cs.take (line.length + 1) ++ more, count + 1, rest)

/-- Takes a document out of the text behind the present line. -/
def takeDocument (strip : Bool) (delimiter : Chars) : Read Chars := do
  let s ← get
  let present := s.rest.takeWhile (· != '\n')
  let after := s.rest.drop (present.length + 1)
  let (body, count, rest) := documentLines strip delimiter (after.length + 1) after
  let taken := after.length - rest.length
  let moved (t : AliasText) : AliasText :=
    { t with behind := if after.length ≤ t.behind then t.behind - taken
      else min t.behind rest.length }
  set { s with
    rest := present ++ '\n' :: rest, skipped := s.skipped + count, texts := s.texts.map moved }
  return body

def inside {α : Type} (cs : Chars) (read : Read α) : Read α := do
  let s ← get
  let texts := s.texts.map fun t => { t with behind := 0 }
  match StateT.run read { s with rest := cs, skipped := 0, held := none, texts } with
  | .error fault => throw fault
  | .ok (a, _) => return a

def tooDeep {α : Type} : Read α := fail "Syntax error: Too deep"

/-! ## Commands

Every function of this block is given `fuel`, which bounds the steps.
-/

def inOrder (first second : Command) : Command :=
  match first with
  | .nothing => second
  | first => .inOrder first second

def Command.redirectedBy (c : Command) (line : Nat) (rs : List Redirection) : Command :=
  match rs, c with
  | [], c => c
  | rs, .apart line body _ => .apart line body rs
  | rs, c => .redirected line c rs

/-- The words, assignments and redirections of a simple command, the newest first. -/
structure Gathered where
  assignments : List (Chars × Word)
  words : List Word
  redirections : List Redirection

def specialBuiltins : List String :=
  [".", ":", "break", "continue", "eval", "exec", "exit", "export", "local", "readonly", "return",
    "set", "shift", "times", "trap", "unset"]

mutual

/-- The parts of a word outside quotes. Inside braces it ends with them, else where a word ends. -/
def openParts : Nat → Bool → Read Word
  | 0, _ => tooDeep
  | fuel + 1, braced => do
    match ← peek? with
    | none => if braced then fail "Syntax error: Missing '\x7d'" else return []
    | some '\'' =>
      skip
      let cs ← singleQuoted ((← get).rest.length + 1)
      return glue (.text true cs) (← openParts fuel braced)
    | some '"' =>
      skip
      let inner ← quotedParts fuel .quotes
      let more ← openParts fuel braced
      return (quoted inner).foldr glue more
    | some '\\' =>
      skip
      let c ← raw?
      return glue (.text true [c.getD '\\']) (← openParts fuel braced)
    | some '$' =>
      skip
      let p ← dollar fuel false
      return glue p (← openParts fuel braced)
    | some c =>
      if c = backquote then
        skip
        let p ← commandInside fuel false
        return glue p (← openParts fuel braced)
      else if braced ∧ c = '\x7d' then
        skip
        return []
      else if ¬ braced ∧ endsWord c then return []
      else
        skip
        return glue (.text false [c]) (← openParts fuel braced)

def quotedParts : Nat → Enclosure → Read Word
  | 0, _ => tooDeep
  | fuel + 1, place => do
    let add (c : Char) : Read Word := do
      skip
      return glue (.text true [c]) (← quotedParts fuel place)
    match ← peek? with
    | none =>
      match place with
      | .document => return []
      | .quotes => fail "Syntax error: Unterminated quoted string"
      | .braces _ => fail "Syntax error: Missing '\x7d'"
    | some '"' =>
      match place with
      | .document => add '"'
      | .quotes =>
        skip
        return []
      | .braces again =>
        skip
        quotedParts fuel (.braces !again)
    | some '\\' =>
      skip
      match ← raw? with
      | none => return glue (.text true ['\\']) (← quotedParts fuel place)
      | some c =>
        let inBraces : Bool := match place with
          | .braces _ => true
          | _ => false
        let isEscape : Bool := c = '\\' ∨ c = backquote ∨ c = '$' ∨
          (c = '"' ∧ place ≠ .document) ∨ (c = '\x7d' ∧ inBraces)
        let cs := if isEscape then [c] else ['\\', c]
        return glue (.text true cs) (← quotedParts fuel place)
    | some '$' =>
      skip
      let p ← dollar fuel true
      return glue p (← quotedParts fuel place)
    | some '\x7d' =>
      if place = .braces false then
        skip
        return []
      else add '\x7d'
    | some c =>
      if c = backquote then
        skip
        let p ← commandInside fuel true
        return glue p (← quotedParts fuel place)
      else add c

def commandInside : Nat → Bool → Read Part
  | 0, _ => tooDeep
  | fuel + 1, quoted => do
    let cs ← backquoted quoted ((← get).rest.length + 1)
    let fromFirst : Read Command := do
      modify fun s => { s with line := 1 }
      commands fuel true
    return .output quoted (← inside cs fromFirst)

/-- The parts of a sum, up to the two parentheses that close it. -/
def sumParts : Nat → Nat → Read Word
  | 0, _ => tooDeep
  | fuel + 1, depth => do
    let add (cs : Chars) (depth : Nat) : Read Word := do
      return glue (.text true cs) (← sumParts fuel depth)
    match ← next? with
    | none => fail "Syntax error: Missing '))'"
    | some '(' => add ['('] (depth + 1)
    | some ')' =>
      if 0 < depth then add [')'] (depth - 1)
      else if ← takes ')' then return []
      else add [')'] 0
    | some '$' =>
      let p ← dollar fuel true
      return glue p (← sumParts fuel depth)
    | some '\\' =>
      match ← raw? with
      | none => add ['\\'] depth
      | some c =>
        add (if c = '\\' ∨ c = backquote ∨ c = '$' ∨ c = '"' then [c] else ['\\', c]) depth
    | some c =>
      if c = backquote then
        let p ← commandInside fuel true
        return glue p (← sumParts fuel depth)
      else add [c] depth

def dollar : Nat → Bool → Read Part
  | 0, _ => tooDeep
  | fuel + 1, quoted => do
    match ← peek? with
    | none => return .text quoted ['$']
    | some '(' =>
      skip
      if ← takes '(' then return .sum quoted (← sumParts fuel 0)
      else
        let held := (← get).held
        modify fun s => { s with held := none }
        let body ← commands fuel true
        let t ← token fuel
        if t.isMark ")" then
          modify fun s => { s with held }
          return .output quoted body
        else unexpectedFor t "\")\""
    | some '\x7b' =>
      skip
      braced fuel quoted
    | some c =>
      if isNameStart c then
        return .value quoted (← span isNameChar ((← get).rest.length)) .plain
      else if isSpecial c then
        skip
        return .value quoted [c] .plain
      else return .text quoted ['$']

/-- A value in braces, of which the first has been taken. -/
def braced : Nat → Bool → Read Part
  | 0, _ => tooDeep
  | fuel + 1, quoted => do
    let word : Read Word :=
      if quoted then quotedParts fuel (.braces false) else openParts fuel true
    let broken : Read Part := do
      let _ ← word
      return .value quoted [] .broken
    match ← braceName with
    | none => broken
    | some (name, true) =>
      if ← takes '\x7d' then return .value quoted name .length else broken
    | some (name, false) =>
      match ← braceSign with
      | .close => return .value quoted name .plain
      | .mend remedy orEmpty => return .value quoted name (.mend remedy orEmpty (← word))
      | .trim atEnd longest =>
        return .value quoted name (.trim atEnd longest (← openParts fuel true))
      | .unknown => broken

/-- Reads a token, which may be an alias if `maybeAlias` says so. -/
def newToken : Nat → Bool → Read Token
  | 0, _ => tooDeep
  | fuel + 1, maybeAlias => do
    skipGaps ((← get).rest.length + 1)
    let maybeAlias := (← leaveTexts) || maybeAlias
    match ← peek? with
    | none => return .finish
    | some c =>
      if c = '<' ∨ c = '>' then redirectSign none
      else if endsWord c then
        skip
        operator c
      else
        let w ← openParts fuel false
        let follows ← peek?
        let number : Option Nat := match w with
          | [.text false [d]] => if d.isDigit then some (d.toNat - 48) else none
          | _ => none
        if number.isSome && (follows = some '<' || follows = some '>') then redirectSign number
        else if maybeAlias then
          if ← expands (.word w) then newToken fuel true else return .word w
        else return .word w

/-- The next token; one that was held comes first. -/
def token : Nat → Read Token
  | 0 => tooDeep
  | fuel + 1 => do
    match (← get).held with
    | some t =>
      modify fun s => { s with held := none }
      return t
    | none => newToken fuel false

/-- The next token, where a word may be an alias; a keyword is none if `keyed` says so. -/
def tokenOrAlias : Nat → Bool → Read Token
  | 0, _ => tooDeep
  | fuel + 1, keyed => do
    let t ← token fuel
    if keyed && t.keyword?.isSome then return t
    else if ← expands t then tokenOrAlias fuel keyed
    else return t

def tokenBeyondLines : Nat → Read Token
  | 0 => tooDeep
  | fuel + 1 => do
    let t ← token fuel
    if t.isMark "\n" then tokenBeyondLines fuel else return t

/-- The token with which the next command starts, perhaps on a line of its own. -/
def startBeyondLines : Nat → Read Token
  | 0 => tooDeep
  | fuel + 1 => do
    let t ← tokenOrAlias fuel true
    if t.isMark "\n" then startBeyondLines fuel else return t

def redirection : Nat → Option Nat → Opening → Bool → Read Redirection
  | 0, _, _, _ => tooDeep
  | fuel + 1, handle, opening, strip => do
    match ← token fuel with
    | .word w =>
      let handle := handle.getD 1
      match opening with
      | .document =>
        let body ← takeDocument strip (delimiterOf w)
        let target ← if isQuoted w then pure [.text true body]
          else inside body (quotedParts fuel .document)
        return .mk handle .document target
      | opening => return .mk handle opening w
    | t => unexpected t

/-- The redirections behind a command, where an alias may stand in front. -/
def redirections : Nat → Bool → Read (List Redirection)
  | 0, _ => tooDeep
  | fuel + 1, first => do
    match ← if first then tokenOrAlias fuel true else token fuel with
    | .redirect handle opening strip =>
      let r ← redirection fuel handle opening strip
      return r :: (← redirections fuel false)
    | t =>
      hold t
      return []

def commands : Nat → Bool → Read Command
  | 0, _ => tooDeep
  | fuel + 1, mayBeEmpty => do
    let t ← startBeyondLines fuel
    hold t
    if t.isFinish || (mayBeEmpty && t.isCloser) then return .nothing
    else
      let first ← chain fuel
      let t ← token fuel
      let first := if t.isMark "&" then .aside first else first
      if t.isMark "\n" || t.isMark ";" || t.isMark "&" then
        match ← commands fuel true with
        | .nothing => return first
        | more => return .inOrder first more
      else
        hold t
        return first

def chain : Nat → Read Command
  | 0 => tooDeep
  | fuel + 1 => do links fuel (← pipeline fuel)

def links : Nat → Command → Read Command
  | 0, _ => tooDeep
  | fuel + 1, first => do
    let t ← token fuel
    if t.isMark "&&" || t.isMark "||" then
      hold (← startBeyondLines fuel)
      let second ← pipeline fuel
      links fuel (if t.isMark "&&" then .both first second else .either first second)
    else
      hold t
      return first

def pipeline : Nat → Read Command
  | 0 => tooDeep
  | fuel + 1 => do
    let t ← tokenOrAlias fuel true
    if t.isKeyword "!" then return .not (← stages fuel) else
      hold t
      stages fuel

def stages : Nat → Read Command
  | 0 => tooDeep
  | fuel + 1 => do
    let first ← command fuel
    let more ← furtherStages fuel
    return if more.isEmpty then first else .pipe (first :: more)

def furtherStages : Nat → Read (List Command)
  | 0 => tooDeep
  | fuel + 1 => do
    let t ← token fuel
    if t.isMark "|" then
      hold (← startBeyondLines fuel)
      let next ← command fuel
      return next :: (← furtherStages fuel)
    else
      hold t
      return []

def demand : Nat → String → Read Unit
  | 0, _ => tooDeep
  | fuel + 1, word => do
    let t ← token fuel
    if t.isKeyword word then return else unexpectedFor t s!"\"{word}\""

/-- What stands behind `if` or `elif`. -/
def choice : Nat → Read Command
  | 0 => tooDeep
  | fuel + 1 => do
    let condition ← commands fuel false
    demand fuel "then"
    let yes ← commands fuel false
    let t ← token fuel
    if t.isKeyword "elif" then return .choose condition yes (← choice fuel)
    else if t.isKeyword "else" then
      let no ← commands fuel false
      demand fuel "fi"
      return .choose condition yes no
    else
      hold t
      demand fuel "fi"
      return .choose condition yes .nothing

def loopBody : Nat → Read Command
  | 0 => tooDeep
  | fuel + 1 => do
    demand fuel "do"
    let body ← commands fuel false
    demand fuel "done"
    return body

/-- The words behind `in`. -/
def items : Nat → Read (List Word)
  | 0 => tooDeep
  | fuel + 1 => do
    match ← token fuel with
    | .word w => return w :: (← items fuel)
    | t => if t.isMark ";" || t.isMark "\n" then return [] else unexpected t

/-- What stands behind `for`. -/
def eachItem : Nat → Nat → Read Command
  | 0, _ => tooDeep
  | fuel + 1, line => do
    let t ← token fuel
    match t.plain? with
    | some name =>
      if isName name.toList then
        let t ← startBeyondLines fuel
        let list ← if t.isKeyword "in" then pure (some (← items fuel))
          else do
            if !t.isMark ";" then hold t
            pure none
        hold (← startBeyondLines fuel)
        return .each line name.toList list (← loopBody fuel)
      else fail "Syntax error: Bad for loop variable"
    | none => fail "Syntax error: Bad for loop variable"

/-- The patterns of a branch, of which the first token has been read. -/
def patterns : Nat → Token → Read (List Word)
  | 0, _ => tooDeep
  | fuel + 1, t => do
    match t with
    | .word w =>
      let next ← token fuel
      if next.isMark "|" then return w :: (← patterns fuel (← token fuel))
      else if next.isMark ")" then return [w]
      else unexpectedFor next "\")\""
    | t => unexpected t

def branches : Nat → Read (List (List Word × Command))
  | 0 => tooDeep
  | fuel + 1 => do
    let t ← tokenBeyondLines fuel
    if t.isKeyword "esac" then return []
    else
      let t ← if t.isMark "(" then token fuel else pure t
      let ps ← patterns fuel t
      let body ← commands fuel true
      let t ← tokenBeyondLines fuel
      if t.isKeyword "esac" then return [(ps, body)]
      else if t.isMark ";;" then return (ps, body) :: (← branches fuel)
      else unexpectedFor t "\";;\""

/-- What stands behind `case`. -/
def selection : Nat → Nat → Read Command
  | 0, _ => tooDeep
  | fuel + 1, line => do
    match ← token fuel with
    | .word subject =>
      let t ← startBeyondLines fuel
      if t.isKeyword "in" then return .select line subject (← branches fuel)
      else unexpectedFor t "\"in\""
    | t => unexpectedFor t "word"

def command : Nat → Read Command
  | 0 => tooDeep
  | fuel + 1 => do
    let t ← tokenOrAlias fuel true
    let line := (← get).line
    let finish (c : Command) : Read Command := do
      return c.redirectedBy line (← redirections fuel true)
    match t.keyword? with
    | some "if" => finish (← choice fuel)
    | some "while" =>
      let condition ← commands fuel false
      finish (.loop true condition (← loopBody fuel))
    | some "until" =>
      let condition ← commands fuel false
      finish (.loop false condition (← loopBody fuel))
    | some "for" => finish (← eachItem fuel line)
    | some "case" => finish (← selection fuel line)
    | some "\x7b" =>
      let body ← commands fuel false
      demand fuel "\x7d"
      finish body
    | some _ => unexpected t
    | none =>
      match t with
      | .mark "(" =>
        let body ← commands fuel false
        let t ← token fuel
        if t.isMark ")" then finish (.apart line body []) else unexpectedFor t "\")\""
      | .word _ =>
        hold t
        simple fuel line ⟨[], [], []⟩
      | .redirect .. =>
        hold t
        simple fuel line ⟨[], [], []⟩
      | t => unexpected t

/-- A simple command, or the definition of a function. -/
def simple : Nat → Nat → Gathered → Read Command
  | 0, _, _ => tooDeep
  | fuel + 1, line, g => do
    match ← if g.words.isEmpty then tokenOrAlias fuel false else token fuel with
    | .word w =>
      match if g.words.isEmpty then assignment? w else none with
      | some a => simple fuel line { g with assignments := a :: g.assignments }
      | none => simple fuel line { g with words := w :: g.words }
    | .redirect handle opening strip =>
      let r ← redirection fuel handle opening strip
      simple fuel line { g with redirections := r :: g.redirections }
    | t =>
      match t.isMark "(", g with
      | true, ⟨[], [name], []⟩ =>
        let close ← token fuel
        if close.isMark ")" then
          match (Token.word name).plain? with
          | some name =>
            if isName name.toList ∧ ¬ specialBuiltins.contains name then
              hold (← startBeyondLines fuel)
              return .define name.toList (← command fuel)
            else fail "Syntax error: Bad function name"
          | none => fail "Syntax error: Bad function name"
        else unexpectedFor close "\")\""
      | _, g =>
        hold t
        return .simple line g.assignments.reverse g.words.reverse g.redirections.reverse

end

def lineWithin : Nat → Command → Read Command
  | 0, _ => tooDeep
  | fuel + 1, before => do
    let t ← tokenOrAlias fuel true
    if t.isMark "\n" then return before
    else
      hold t
      if t.isFinish then return before
      else
        let next ← chain fuel
        let t ← token fuel
        let next := if t.isMark "&" then .aside next else next
        let all := inOrder before next
        if t.isMark "\n" || t.isFinish then return all
        else if t.isMark ";" || t.isMark "&" then lineWithin fuel all
        else unexpected t

/-- A text to be read from its first line on. -/
def Scan.start (cs : Chars) : Scan := ⟨cs, 1, 0, none, [], []⟩

/-- How deep reading may go: every character can be one step down, and every word an alias. -/
def Scan.depth (s : Scan) : Nat :=
  let texts := s.aliases.foldl (fun n e => n + e.2.length + 1) 1
  16 * (s.rest.length + 1) * texts

/-- Reads the next line of commands, in which words can be aliases; none at the end of the text. -/
def Scan.line? (s : Scan) (aliases : List (Chars × Chars)) :
    Except SyntaxFault (Option (Command × Scan)) :=
  if s.rest = [] then .ok none
  else
    let s := { s with aliases }
    match StateT.run (lineWithin s.depth .nothing) s with
    | .error fault => .error fault
    | .ok (c, s) => .ok (some (c, { s with held := none }))

/-- The word that a text stands for as a whole, as in a here-document. -/
def readWhole (cs : Chars) : Except SyntaxFault Word :=
  let s := Scan.start cs
  (StateT.run (quotedParts s.depth .document) s).map Prod.fst

end CommandShell.Script
