import LanguageWorker.Files.FileSystem
import LanguageWorker.Files.Path
import LanguageWorker.Json
import LanguageWorker.OrderedMap

namespace LanguageWorker

/-! The built-in declaration files. They come from a folder and are taken in the order of their
names, so the registry does not depend on the order in which the folder lists them. -/

/-- The declaration files that come with the engine: their texts by name. They are
fixed when the worker starts. -/
abbrev LibRegistry := OrderedMap String

namespace LibRegistry

def toJson (libs : LibRegistry) : Json :=
  Json.ofMembers (libs.entries.map fun (name, text) => (name, .string text))

/-! ## The declaration files of a folder -/

def declarationSuffix : String := ".d.ts"

/-- The name of an entry that is a declaration file. -/
def declarationName? (entry : FolderEntry) : Option String :=
  match entry.name with
  | some name =>
      if entry.isRegularFile && declarationSuffix.toList.isSuffixOf name.toList then some name
      else none
  | none => none

/-- The names of a folder's declaration files, in order. -/
def declarationNames (entries : List FolderEntry) : List String :=
  (entries.filterMap declarationName?).mergeSort fun first second => first ≤ second

variable {m : Type → Type} [Monad m]

/-- Read the named files of a folder, up to the first that cannot be read. -/
def readAll (files : FileSystem m) (folder : String) :
    List String → m (Except FileError (List (String × String)))
  | [] => return .ok []
  | name :: names => do
      match ← files.readText (Path.join folder name) with
      | .error cause => return .error cause
      | .ok text =>
          match ← readAll files folder names with
          | .error cause => return .error cause
          | .ok others => return .ok ((name, text) :: others)

/-- The registry of the declaration files directly inside a folder. -/
def ofFolder (files : FileSystem m) (folder : String) : m (Except FileError LibRegistry) := do
  match ← files.list folder with
  | .error cause => return .error cause
  | .ok entries =>
      match ← readAll files folder (declarationNames entries) with
      | .error cause => return .error cause
      | .ok read => return .ok (OrderedMap.ofList read)

end LibRegistry

end LanguageWorker
