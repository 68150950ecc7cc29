/-!
# Errors of files and processes

A `FileError` is the reason why a file cannot be read or written, or why a process cannot be
started. The wording of those that the operating system gives ends in its number for them.
-/

namespace CallerClosure

/-- Why a file or a process could not be used. -/
inductive FileError
  | notFound
  | permissionDenied
  | notADirectory
  | isADirectory
  | nameTooLong
  | tooManyLinks
  /-- The name of a file holds a NUL. -/
  | nulInName
  /-- The command line of a process holds a NUL. -/
  | nulInCommand
  /-- The content is not a text. -/
  | notText
  deriving DecidableEq

/-- The wording of a file error. -/
def FileError.message : FileError → String
  | notFound => "No such file or directory (os error 2)"
  | permissionDenied => "Permission denied (os error 13)"
  | notADirectory => "Not a directory (os error 20)"
  | isADirectory => "Is a directory (os error 21)"
  | nameTooLong => "File name too long (os error 36)"
  | tooManyLinks => "Too many levels of symbolic links (os error 40)"
  | nulInName => "file name contained an unexpected NUL byte"
  | nulInCommand => "nul byte found in provided data"
  | notText => "stream did not contain valid UTF-8"

end CallerClosure
