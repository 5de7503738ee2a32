/-!
# Trouble with files

Why a path leads to no file that can be read or written, in the words of the system's error list.
-/
namespace Isl

inductive FileFault where
  | missing
  | notDirectory
  | isDirectory
  | nameTooLong
  | tooManyLinks
  /-- The content is no text. -/
  | notText
  /-- The path holds a character that ends all paths. -/
  | endedPath
deriving DecidableEq, Repr

def FileFault.message : FileFault → String
  | missing => "No such file or directory (os error 2)"
  | notDirectory => "Not a directory (os error 20)"
  | isDirectory => "Is a directory (os error 21)"
  | nameTooLong => "File name too long (os error 36)"
  | tooManyLinks => "Too many levels of symbolic links (os error 40)"
  | notText => "stream did not contain valid UTF-8"
  | endedPath => "file name contained an unexpected NUL byte"

end Isl
