import CommandShell.Text.Quoted

/-!
# Errors of the host

The reasons for which the host refuses to open, make or start something, each with its number and
its wording, and the errors that carry them.
-/
namespace CommandShell
open Text

/-- Why a file operation fails. -/
inductive FileFault
  | notPermitted
  | notFound
  | noDevice
  | argumentTooLong
  | badFormat
  | denied
  | busy
  | alreadyThere
  | notFolder
  | isFolder
  | invalid
  | noSpace
  | nameTooLong
  | readOnly
  | notEmpty
  | tooManyLinks
  deriving DecidableEq, Repr

namespace FileFault

def number : FileFault → Int
  | notPermitted => 1
  | notFound => 2
  | noDevice => 6
  | argumentTooLong => 7
  | badFormat => 8
  | denied => 13
  | busy => 16
  | alreadyThere => 17
  | notFolder => 20
  | isFolder => 21
  | invalid => 22
  | noSpace => 28
  | readOnly => 30
  | nameTooLong => 36
  | notEmpty => 39
  | tooManyLinks => 40

def wording : FileFault → String
  | notPermitted => "Operation not permitted"
  | notFound => "No such file or directory"
  | noDevice => "No such device or address"
  | argumentTooLong => "Argument list too long"
  | badFormat => "Exec format error"
  | denied => "Permission denied"
  | busy => "Device or resource busy"
  | alreadyThere => "File exists"
  | notFolder => "Not a directory"
  | isFolder => "Is a directory"
  | invalid => "Invalid argument"
  | noSpace => "No space left on device"
  | readOnly => "Read-only file system"
  | nameTooLong => "File name too long"
  | notEmpty => "Directory not empty"
  | tooManyLinks => "Too many levels of symbolic links"

end FileFault

/-- A host error: a file fault with the path it befell, an error with a number of its own, or one
that is only a text. -/
inductive SystemError
  | file (fault : FileFault) (path : Option String)
  | numbered (number : Int) (wording : String)
  | plain (wording : String)
  deriving DecidableEq, Repr

namespace SystemError

def message : SystemError → String
  | file fault none => s!"[Errno {fault.number}] {fault.wording}"
  | file fault (some path) => s!"[Errno {fault.number}] {fault.wording}: {quoted path}"
  | numbered number wording => s!"[Errno {number}] {wording}"
  | plain wording => wording

/-- The wording alone, or the whole message where there is no wording. -/
def reason : SystemError → String
  | file fault _ => fault.wording
  | numbered number "" => s!"[Errno {number}] "
  | numbered _ wording => wording
  | plain wording => wording

end SystemError

/-- What ends an operation from below: a host error, a null character where the host or the line
editor allows none, a clause without any target, a program without any output to decode, an error of
another kind, an interrupt, or a request to leave. -/
inductive Escape
  | system (error : SystemError)
  | nullCharacter
  | nullInLine
  | targetMissing
  | outputMissing
  | other (message : String)
  | interrupt
  | exit (code : Int)
  deriving DecidableEq, Repr

def Escape.message : Escape → String
  | system error => error.message
  | nullCharacter => "embedded null byte"
  | nullInLine => "embedded null character"
  | targetMissing => "tuple index out of range"
  | outputMissing => "'NoneType' object has no attribute 'decode'"
  | other message => message
  | interrupt => ""
  | exit code => toString code

end CommandShell
