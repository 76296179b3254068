import NativeThunks.CommandLine

/-! The program: the command line on the files of the machine. -/
namespace NativeThunks.Main
open Files

/-- The fault behind a failed operation of the machine. -/
def faultOf : IO.Error → IoFault
  | .noFileOrDirectory _ _ _ => .notFound
  | .alreadyExists _ _ _ => .alreadyThere
  | .inappropriateType _ code _ => if code = 21 then .isAFolder else .notAFolder
  | error => .other (toString error)

/-- Runs an operation of the machine. -/
def attempt {α : Type} (operation : IO α) : IO (Except IoFault α) := do
  try
    return .ok (← operation)
  catch error =>
    return .error (faultOf error)

def read (path : String) : IO (Except IoFault String) := do
  match ← attempt (IO.FS.readBinFile path) with
  | .error fault => return .error fault
  | .ok bytes =>
    match String.fromUTF8? bytes with
    | some text => return .ok text
    | none => return .error .notText

/-- Whether a path leads to a file, which can be read unlike a folder. -/
def isFile (path : String) : IO Bool := do
  let first : IO Unit := do
    let handle ← IO.FS.Handle.mk path .read
    let _ ← handle.read 1
  return (← attempt first).isOk

/-- Whether a path leads to anything. -/
def isPresent (path : String) : IO Bool := do
  return (← attempt (IO.FS.realPath path)).isOk

/-- The operations on the files of the machine. -/
def access : FileAccess IO where
  read := read
  isFile := isFile
  isPresent := isPresent
  createFolders path := if path = "" then return .ok () else attempt (IO.FS.createDirAll path)
  write path text := attempt (IO.FS.writeFile path text)

end NativeThunks.Main

def main (arguments : List String) : IO UInt32 := do
  let config ← IO.getEnv NativeThunks.CommandLine.configVariable
  let result ← NativeThunks.CommandLine.run NativeThunks.Main.access arguments config
  IO.print result.output
  IO.eprint result.errors
  return result.exit.toUInt32
