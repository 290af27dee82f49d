/-!
Errors that the system reports for files, processes and terminals, with their numbers.

Source pin: messages of Linux, with their numbers.
-/
namespace SecretVault.Files

inductive Error where
  | notFound | noDevice | permissionDenied | exists | notDirectory | isDirectory | nameTooLong
  | nulInName | ioError | noSpace | brokenPipe
  deriving DecidableEq, Repr

namespace Error

def text : Error → String
  | .notFound => "No such file or directory"
  | .noDevice => "No such device or address"
  | .permissionDenied => "Permission denied"
  | .exists => "File exists"
  | .notDirectory => "Not a directory"
  | .isDirectory => "Is a directory"
  | .nameTooLong => "File name too long"
  | .nulInName => "file name contained an unexpected NUL byte"
  | .ioError => "Input/output error"
  | .noSpace => "No space left on device"
  | .brokenPipe => "Broken pipe"

/-- The system's number of an error; one found before the system is asked has none. -/
def number? : Error → Option Nat
  | .notFound => some 2
  | .ioError => some 5
  | .noDevice => some 6
  | .permissionDenied => some 13
  | .exists => some 17
  | .notDirectory => some 20
  | .isDirectory => some 21
  | .noSpace => some 28
  | .brokenPipe => some 32
  | .nameTooLong => some 36
  | .nulInName => none

def message (e : Error) : String :=
  match e.number? with
  | some number => e.text ++ " (os error " ++ toString number ++ ")"
  | none => e.text

end Error
end SecretVault.Files
