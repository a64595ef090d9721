/-!
# Signals

What can be sent to a program to end it: numbers, the names they go by, and what is said of a
program that was ended by one.
-/
namespace CommandShell

structure Signal where
  number : Nat
  name : String
  description : String
  deriving DecidableEq, Repr

namespace Signal

def all : List Signal :=
  [⟨1, "HUP", "Hangup"⟩, ⟨2, "INT", "Interrupt"⟩, ⟨3, "QUIT", "Quit"⟩,
    ⟨4, "ILL", "Illegal instruction"⟩,
    ⟨5, "TRAP", "Trace/breakpoint trap"⟩, ⟨6, "ABRT", "Aborted"⟩, ⟨7, "BUS", "Bus error"⟩,
    ⟨8, "FPE", "Floating point exception"⟩, ⟨9, "KILL", "Killed"⟩,
    ⟨10, "USR1", "User defined signal 1"⟩, ⟨11, "SEGV", "Segmentation fault"⟩,
    ⟨12, "USR2", "User defined signal 2"⟩, ⟨13, "PIPE", "Broken pipe"⟩, ⟨14, "ALRM", "Alarm clock"⟩,
    ⟨15, "TERM", "Terminated"⟩, ⟨16, "STKFLT", "Stack fault"⟩, ⟨17, "CHLD", "Child exited"⟩,
    ⟨18, "CONT", "Continued"⟩, ⟨19, "STOP", "Stopped (signal)"⟩, ⟨20, "TSTP", "Stopped"⟩,
    ⟨21, "TTIN", "Stopped (tty input)"⟩, ⟨22, "TTOU", "Stopped (tty output)"⟩,
    ⟨23, "URG", "Urgent I/O condition"⟩, ⟨24, "XCPU", "CPU time limit exceeded"⟩,
    ⟨25, "XFSZ", "File size limit exceeded"⟩, ⟨26, "VTALRM", "Virtual timer expired"⟩,
    ⟨27, "PROF", "Profiling timer expired"⟩, ⟨28, "WINCH", "Window changed"⟩,
    ⟨29, "IO", "I/O possible"⟩, ⟨30, "PWR", "Power failure"⟩, ⟨31, "SYS", "Bad system call"⟩]

def ofNumber? (n : Nat) : Option Signal := all.find? (·.number = n)

def last : Nat := 64

/-- The names of signals that mean nothing by themselves, counted from the nearer end. -/
def spareName? (n : Nat) : Option String :=
  if n < 34 ∨ last < n then none
  else if n = 34 then some "RTMIN"
  else if n < 50 then some s!"RTMIN+{n - 34}"
  else if n < last then some s!"RTMAX-{last - n}"
  else some "RTMAX"

/-- How scripts name a signal; one name they do not know, and the end of a script counts as one. -/
def scriptName (n : Nat) : String :=
  if n = 0 then "EXIT"
  else if n = 16 then "16"
  else ((ofNumber? n).map name).getD ((spareName? n).getD (toString n))

/-- What is said of a program that was ended by a signal. -/
def descriptionOf (n : Nat) : String :=
  match ofNumber? n with
  | some g => g.description
  | none => if (spareName? n).isSome then s!"Real-time signal {n - 34}" else ""

/-- What is said when a program has ended by a signal; two of them go without saying. -/
def announcement (n : Nat) : String := if n = 2 ∨ n = 13 then "" else descriptionOf n

def hangup : Nat := 1

def kill : Nat := 9

def stubborn : List Nat := [kill, 19]

/-- Signals that do nothing to a program that does not wait for them. -/
def harmless : List Nat := [17, 18, 23, 28]

/-- The number of a signal that a text of digits gives. -/
def ofDigits? (word : String) : Option Nat :=
  let n := word.toList.foldl (fun n c => 10 * n + (c.toNat - 48)) 0
  if n ≤ last then some n else none

def isNumber (word : String) : Bool := word ≠ "" && word.toList.all Char.isDigit

/-- The number that a name or a text of digits stands for. -/
def numberOf? (word : String) : Option Nat :=
  if isNumber word then ofDigits? word
  else
    let word := word.map Char.toUpper
    let bare := if word.toList.take 3 = ['S', 'I', 'G'] then String.ofList (word.toList.drop 3)
      else word
    if bare = "EXIT" then some 0
    else
      ((all.find? (·.name = bare)).map Signal.number).or
        ((List.range (last + 1)).find? fun n => spareName? n = some bare)

/-- The number that a word stands for in a script; of names only those from `least` on count. -/
def scriptNumber? (least : Nat) (word : String) : Option Nat :=
  if isNumber word then ofDigits? word
  else
    (List.range (last + 1)).find? fun n =>
      least ≤ n && scriptName n == word.map Char.toUpper

end Signal
end CommandShell
