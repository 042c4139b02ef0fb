/-! Why the machine refuses what is asked of it. -/
namespace Proctor.Machine

inductive Failure where
  | missing
  | denied
  | present
  | notDirectory
  | isDirectory
  | notEmpty
  | nameTooLong
  | tooManyLinks
  | noDevice
  | noSpace
  | brokenPipe
  | invalid
  | notOpen
  | noProgram
  /-- A text that is to name a file or to be handed to a program holds a zero character. -/
  | zeroByte
  | notText
deriving DecidableEq, Repr

namespace Failure

def reason : Failure → String
  | .missing => "No such file or directory"
  | .denied => "Permission denied"
  | .present => "File exists"
  | .notDirectory => "Not a directory"
  | .isDirectory => "Is a directory"
  | .notEmpty => "Directory not empty"
  | .nameTooLong => "File name too long"
  | .tooManyLinks => "Too many levels of symbolic links"
  | .noDevice => "No such device or address"
  | .noSpace => "No space left on device"
  | .brokenPipe => "Broken pipe"
  | .invalid => "Invalid argument"
  | .notOpen => "Bad file descriptor"
  | .noProgram => "Exec format error"
  | .zeroByte => "nul byte found in provided data"
  | .notText => "stream did not contain valid UTF-8"

def number? : Failure → Option Nat
  | .missing => some 2
  | .noDevice => some 6
  | .noProgram => some 8
  | .notOpen => some 9
  | .denied => some 13
  | .present => some 17
  | .notDirectory => some 20
  | .isDirectory => some 21
  | .invalid => some 22
  | .noSpace => some 28
  | .brokenPipe => some 32
  | .nameTooLong => some 36
  | .notEmpty => some 39
  | .tooManyLinks => some 40
  | .zeroByte => none
  | .notText => none

def message (failure : Failure) : String :=
  match failure.number? with
  | some n => s!"{failure.reason} (os error {n})"
  | none => failure.reason

end Failure
end Proctor.Machine
