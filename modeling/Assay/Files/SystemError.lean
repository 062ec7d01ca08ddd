/-!
Errors of the operating system, with the numbers that messages show.
-/

namespace Assay.Files

inductive SystemError where
  | noSuchFile
  | permissionDenied
  | alreadyExists
  | notADirectory
  | isADirectory
  | nameTooLong
  | notEmpty
  /-- The bytes of a file are not UTF-8 where text is wanted. -/
  | invalidText
  deriving DecidableEq, Repr

namespace SystemError

/-- The number that the system gives the error, if it comes from there. -/
def number? : SystemError → Option Nat
  | .noSuchFile => some 2
  | .permissionDenied => some 13
  | .alreadyExists => some 17
  | .notADirectory => some 20
  | .isADirectory => some 21
  | .nameTooLong => some 36
  | .notEmpty => some 39
  | .invalidText => none

def description : SystemError → String
  | .noSuchFile => "No such file or directory"
  | .permissionDenied => "Permission denied"
  | .alreadyExists => "File exists"
  | .notADirectory => "Not a directory"
  | .isADirectory => "Is a directory"
  | .nameTooLong => "File name too long"
  | .notEmpty => "Directory not empty"
  | .invalidText => "stream did not contain valid UTF-8"

def message (e : SystemError) : String :=
  match e.number? with
  | some number => e.description ++ s!" (os error {number})"
  | none => e.description

end SystemError

end Assay.Files
