namespace LanguageWorker

/-! What a program may ask about files, in any monad that can answer. The questions are
gathered in one record, so a program can be run on the files of a machine or on a
tree that is held as a value. -/

/-- Why a file or folder cannot be had. -/
inductive FileError where
  | notFound
  | notDirectory
  | isDirectory
  | tooManyLinks
  | nameTooLong
  | accessDenied
  | nulInPath
  | notText
  | other (text : String)
  deriving DecidableEq, Repr

namespace FileError

def message : FileError → String
  | notFound => "No such file or directory (os error 2)"
  | accessDenied => "Permission denied (os error 13)"
  | notDirectory => "Not a directory (os error 20)"
  | isDirectory => "Is a directory (os error 21)"
  | nameTooLong => "File name too long (os error 36)"
  | tooManyLinks => "Too many levels of symbolic links (os error 40)"
  | nulInPath => "file name contained an unexpected NUL byte"
  | notText => "stream did not contain valid UTF-8"
  | other text => text

end FileError

/-- An entry of a folder. Links are not regular files, whatever they lead to. -/
structure FolderEntry where
  /-- The name, when it is a text. -/
  name : Option String
  isRegularFile : Bool
  deriving DecidableEq, Repr

/-- The questions a program asks about files. Links are followed on the way. -/
structure FileSystem (m : Type → Type) where
  read : String → m (Except FileError ByteArray)
  list : String → m (Except FileError (List FolderEntry))
  exists? : String → m Bool
  /-- The absolute path without links. -/
  canonical : String → m (Except FileError String)

namespace FileSystem

/-- The text that some bytes encode. -/
def textOf (content : Except FileError ByteArray) : Except FileError String :=
  match content with
  | .error cause => .error cause
  | .ok bytes =>
      match String.fromUTF8? bytes with
      | some text => .ok text
      | none => .error .notText

variable {m : Type → Type} [Monad m]

/-- Read a file as text. -/
def readText (files : FileSystem m) (path : String) : m (Except FileError String) := do
  return textOf (← files.read path)

end FileSystem

/-- The variables of the environment that matter. -/
structure Environment where
  configHome : Option String
  home : Option String
  deriving DecidableEq, Repr

end LanguageWorker
