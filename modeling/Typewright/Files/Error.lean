/-!
# Failures of the file system

The ways in which reading or writing a file can fail, with the words and numbers that the operating system has for
them.
-/

namespace Typewright

inductive FileError where
  | notFound
  | alreadyExists
  | notDirectory
  | isDirectory
  /-- A part of the path has more bytes than a name may have. -/
  | nameTooLong
  /-- The path holds the null character. -/
  | nullInPath
  | invalidText
  deriving DecidableEq, Repr

def FileError.message : FileError → String
  | .notFound => "No such file or directory (os error 2)"
  | .alreadyExists => "File exists (os error 17)"
  | .notDirectory => "Not a directory (os error 20)"
  | .isDirectory => "Is a directory (os error 21)"
  | .nameTooLong => "File name too long (os error 36)"
  | .nullInPath => "file name contained an unexpected NUL byte"
  | .invalidText => "stream did not contain valid UTF-8"

end Typewright
