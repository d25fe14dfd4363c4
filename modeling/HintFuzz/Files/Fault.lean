/-!
# Faults of the system

Why an operation on files or processes fails.  Each reason has a number and
words of its own.
-/

namespace HintFuzz.Files

/-- Why an operation fails. -/
inductive Fault
  | notPermitted
  | notFound
  | noProcess
  | interrupted
  | noDevice
  | tooManyArguments
  | notExecutable
  | badDescriptor
  | noChild
  | outOfMemory
  | permissionDenied
  | busy
  | occupied
  | otherDevice
  | notDirectory
  | isDirectory
  | invalid
  | noSpace
  | noSeek
  | brokenPipe
  | nameTooLong
  | notEmpty
  | tooManyLinks
  /-- Bytes that should be a text are none. -/
  | notUtf8
  /-- A path holds a zero character. -/
  | zeroInPath
deriving DecidableEq, Repr

namespace Fault

/-- The number of a fault; none for one that the system does not know. -/
def number? : Fault → Option Nat
  | notPermitted => some 1
  | notFound => some 2
  | noProcess => some 3
  | interrupted => some 4
  | noDevice => some 6
  | tooManyArguments => some 7
  | notExecutable => some 8
  | badDescriptor => some 9
  | noChild => some 10
  | outOfMemory => some 12
  | permissionDenied => some 13
  | busy => some 16
  | occupied => some 17
  | otherDevice => some 18
  | notDirectory => some 20
  | isDirectory => some 21
  | invalid => some 22
  | noSpace => some 28
  | noSeek => some 29
  | brokenPipe => some 32
  | nameTooLong => some 36
  | notEmpty => some 39
  | tooManyLinks => some 40
  | notUtf8 | zeroInPath => none

/-- The words for a fault. -/
def words : Fault → String
  | notPermitted => "Operation not permitted"
  | notFound => "No such file or directory"
  | noProcess => "No such process"
  | interrupted => "Interrupted system call"
  | noDevice => "No such device or address"
  | tooManyArguments => "Argument list too long"
  | notExecutable => "Exec format error"
  | badDescriptor => "Bad file descriptor"
  | noChild => "No child processes"
  | outOfMemory => "Cannot allocate memory"
  | permissionDenied => "Permission denied"
  | busy => "Device or resource busy"
  | occupied => "File exists"
  | otherDevice => "Invalid cross-device link"
  | notDirectory => "Not a directory"
  | isDirectory => "Is a directory"
  | invalid => "Invalid argument"
  | noSpace => "No space left on device"
  | noSeek => "Illegal seek"
  | brokenPipe => "Broken pipe"
  | nameTooLong => "File name too long"
  | notEmpty => "Directory not empty"
  | tooManyLinks => "Too many levels of symbolic links"
  | notUtf8 => "stream did not contain valid UTF-8"
  | zeroInPath => "file name contained an unexpected NUL byte"

/-- The wording of a fault with its number. -/
def message (fault : Fault) : String :=
  match fault.number? with
  | some number => s!"{fault.words} (os error {number})"
  | none => fault.words

end Fault

end HintFuzz.Files
