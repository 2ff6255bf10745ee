/-!
Why a file cannot be opened or read, in the words of the operating system.
-/
namespace Crawlability.Files

inductive Error where
  | notFound
  | alreadyExists
  | notADirectory
  | isADirectory
  | nameTooLong
  /-- The path holds a character that ends every path. -/
  | nulInPath
  /-- The file holds octets that are no text. -/
  | notText
  | other (reason : String)
deriving Repr, DecidableEq

namespace Error

def message : Error → String
  | notFound => "No such file or directory (os error 2)"
  | alreadyExists => "File exists (os error 17)"
  | notADirectory => "Not a directory (os error 20)"
  | isADirectory => "Is a directory (os error 21)"
  | nameTooLong => "File name too long (os error 36)"
  | nulInPath => "file name contained an unexpected NUL byte"
  | notText => "stream did not contain valid UTF-8"
  | other reason => reason

end Error

end Crawlability.Files
