import LanguageWorker.CommandLine

namespace LanguageWorker.Main

/-! The program itself. It asks the operating system what the library wants to
know and prints what the library answers. -/

/-- The cause that an error number of the operating system stands for. -/
def causeOf (number : UInt32) (details : String) : FileError :=
  match number with
  | 2 => .notFound
  | 13 => .accessDenied
  | 20 => .notDirectory
  | 21 => .isDirectory
  | 36 => .nameTooLong
  | 40 => .tooManyLinks
  | _ => .other (details ++ " (os error " ++ toString number.toNat ++ ")")

def causeOfError : IO.Error → FileError
  | .noFileOrDirectory _ number details => causeOf number details
  | .permissionDenied _ number details => causeOf number details
  | .inappropriateType _ number details => causeOf number details
  | .invalidArgument _ number details => causeOf number details
  | .resourceExhausted _ number details => causeOf number details
  | .noSuchThing _ number details => causeOf number details
  | .otherError number details => causeOf number details
  | error => .other (toString error)

/-- Carry out an action; its failure becomes a value. -/
def attempt {α : Type} (action : IO α) : IO (Except FileError α) := do
  match ← action.toBaseIO with
  | .ok value => return .ok value
  | .error error => return .error (causeOfError error)

/-- An entry of a folder. One that cannot be looked at is no regular file. -/
def entryOf (entry : IO.FS.DirEntry) : IO FolderEntry := do
  let isRegularFile := match ← attempt entry.path.symlinkMetadata with
    | .ok metadata => metadata.type == .file
    | .error _ => false
  return { name := String.fromUTF8? entry.fileName.toUTF8, isRegularFile }

/-- The files of the machine. -/
def machineFiles : FileSystem IO where
  read path := attempt (IO.FS.readBinFile path)
  list path := attempt do
    let entries ← (← IO.FS.realPath path).readDir
    entries.toList.mapM entryOf
  exists? path := return (← attempt (IO.FS.realPath path)).isOk
  canonical path := attempt do return (← IO.FS.realPath path).toString

def machineEnvironment : IO Environment := do
  return {
    configHome := ← IO.getEnv "XDG_CONFIG_HOME"
    home := ← IO.getEnv "HOME" }

end LanguageWorker.Main

open LanguageWorker in
def main (arguments : List String) : IO UInt32 := do
  match CommandLine.parse arguments with
  | .version =>
      IO.print CommandLine.versionLine
      return 0
  | .help =>
      IO.print CommandLine.usage
      return 0
  | .usageError =>
      IO.eprint CommandLine.usage
      return 2
  | .run invocation =>
      match ← CommandLine.run Main.machineFiles (← Main.machineEnvironment) invocation with
      | .ok output =>
          IO.print output
          return 0
      | .error cause =>
          IO.eprintln ("Error: " ++ cause.message)
          return 1
