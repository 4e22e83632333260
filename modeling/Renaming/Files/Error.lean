/-!
# File errors
-/

namespace Renaming

/-- Why an operation on files failed. -/
inductive FileError where
  | notFound
  | notADirectory
  | isADirectory
  | busy
  | nameTooLong
  /-- The path holds a character that no path may hold. -/
  | holdsNul
  /-- Only regular files can be copied. -/
  | notRegular
  /-- The content is not UTF-8. -/
  | notText
  /-- Anything else that a machine reports. -/
  | system (message : String)
  /-- The run ended in the middle of the operation, so that nothing happens after it. -/
  | interrupted
deriving DecidableEq, Repr, Inhabited

def FileError.message : FileError → String
  | notFound => "No such file or directory (os error 2)"
  | notADirectory => "Not a directory (os error 20)"
  | isADirectory => "Is a directory (os error 21)"
  | busy => "Device or resource busy (os error 16)"
  | nameTooLong => "File name too long (os error 36)"
  | holdsNul => "file name contained an unexpected NUL byte"
  | notRegular => "the source path is neither a regular file nor a symlink to a regular file"
  | notText => "stream did not contain valid UTF-8"
  | system message => message
  | interrupted => "interrupted"

end Renaming
