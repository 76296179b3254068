/-! What commands need of files, apart from where the files are. -/
namespace NativeThunks.Files

/-- The ways in which an operation on files fails. -/
inductive IoFault where
  | notFound
  | alreadyThere
  | notAFolder
  | isAFolder
  | nameTooLong
  /-- A path holds a null character. -/
  | nullCharacter
  /-- The bytes of a file are no text. -/
  | notText
  | other (text : String)
deriving DecidableEq, Repr

def IoFault.message : IoFault → String
  | .notFound => "No such file or directory (os error 2)"
  | .alreadyThere => "File exists (os error 17)"
  | .notAFolder => "Not a directory (os error 20)"
  | .isAFolder => "Is a directory (os error 21)"
  | .nameTooLong => "File name too long (os error 36)"
  | .nullCharacter => "file name contained an unexpected NUL byte"
  | .notText => "stream did not contain valid UTF-8"
  | .other text => text

/-- The operations on files, by paths. -/
structure FileAccess (m : Type → Type) where
  /-- The text of a file. -/
  read : String → m (Except IoFault String)
  /-- Whether a path leads to a file. -/
  isFile : String → m Bool
  /-- Whether a path leads to anything. -/
  isPresent : String → m Bool
  /-- Makes a folder and all folders around it, as far as they are missing. -/
  createFolders : String → m (Except IoFault Unit)
  /-- Makes a file with a text, or replaces its text. -/
  write : String → String → m (Except IoFault Unit)

end NativeThunks.Files
