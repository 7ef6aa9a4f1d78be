import LanguageWorker.Text.Search

namespace LanguageWorker.Path

/-! Paths as texts whose parts are divided by slashes. -/

/-- The pieces of a text between the marks; always at least one. -/
def split (mark : Char) : List Char → List (List Char)
  | [] => [[]]
  | character :: rest =>
      if character = mark then [] :: split mark rest
      else
        match split mark rest with
        | piece :: pieces => (character :: piece) :: pieces
        | [] => [[character]]

/-- The parts of a path. Empty parts and single dots lead nowhere and are left
out. -/
def parts (path : List Char) : List (List Char) :=
  (split '/' path).filter fun part => part ≠ [] && part ≠ ['.']

/-- A path continued by a name. -/
def join (path name : String) : String :=
  if path.isEmpty || path.endsWith "/" then path ++ name else path ++ "/" ++ name

/-- The last part of a path, unless it leads upwards. -/
def fileName? (path : List Char) : Option (List Char) :=
  match (parts path).getLast? with
  | some name => if name = ['.', '.'] then none else some name
  | none => none

/-- What stands behind the last dot of the file name. A dot in front of the whole
name does not count. -/
def extension? (path : String) : Option String := do
  let name ← fileName? path.toList
  let extension ← Text.behindLast? '.' name
  if extension.length + 1 = name.length then none else some (String.ofList extension)

example : extension? "/a.b/w.json/" = some "json" := by decide +kernel
example : extension? "/a.b/.json" = none := by decide +kernel
example : extension? "w..json" = some "json" := by decide +kernel

end LanguageWorker.Path
