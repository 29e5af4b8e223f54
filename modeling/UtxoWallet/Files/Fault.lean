/-! # Why a file cannot be used -/

namespace UtxoWallet.Files

inductive Fault where
  | notFound
  | alreadyExists
  | isDirectory
  | notDirectory
  /-- A name, or a whole path, has more bytes than the system takes. -/
  | nameTooLong
  | nullInPath
  | notText
  /-- Anything else that the system reports, in its own words. -/
  | other (text : String)
deriving DecidableEq, Repr

def Fault.message : Fault → String
  | .notFound => "No such file or directory (os error 2)"
  | .alreadyExists => "File exists (os error 17)"
  | .isDirectory => "Is a directory (os error 21)"
  | .notDirectory => "Not a directory (os error 20)"
  | .nameTooLong => "File name too long (os error 36)"
  | .nullInPath => "file name contained an unexpected NUL byte"
  | .notText => "stream did not contain valid UTF-8"
  | .other text => text

end UtxoWallet.Files
