/-!
# Errors of the file system
-/

namespace Roster.Files

/-- Why the system refuses an operation on files. -/
inductive OsError where
  | notFound
  | exists
  | notDirectory
  | isDirectory
  | nameTooLong
  /-- The name contains NUL, which no file name can. -/
  | nulInName
  /-- The file is read as a text and is none. -/
  | notText
  deriving DecidableEq, Repr

namespace OsError

/-- The error in words. -/
def message : OsError → String
  | notFound => "No such file or directory (os error 2)"
  | «exists» => "File exists (os error 17)"
  | notDirectory => "Not a directory (os error 20)"
  | isDirectory => "Is a directory (os error 21)"
  | nameTooLong => "File name too long (os error 36)"
  | nulInName => "file name contained an unexpected NUL byte"
  | notText => "stream did not contain valid UTF-8"

/-- The name of the kind of error. -/
def kind : OsError → String
  | notFound => "NotFound"
  | «exists» => "AlreadyExists"
  | notDirectory => "NotADirectory"
  | isDirectory => "IsADirectory"
  | nameTooLong => "InvalidFilename"
  | nulInName => "InvalidInput"
  | notText => "InvalidData"

end OsError

end Roster.Files
