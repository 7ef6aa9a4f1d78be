import LanguageWorker.Files.FileSystem
import LanguageWorker.Files.Path

namespace LanguageWorker

/-! File systems that are held as values: a tree of folders, files and symbolic
links. -/

/-- What a name in a folder stands for. -/
inductive FileTree where
  | file (content : ByteArray)
  | folder (entries : List (String × FileTree))
  | link (target : String)

namespace FileTree

def empty : FileTree := .folder []

instance : Inhabited FileTree := ⟨empty⟩

/-- How many links are followed before the search is given up. -/
def linkLimit : Nat := 40

/-- How many bytes a name may have. -/
def nameLimit : Nat := 255

/-- How many bytes a path may have. -/
def pathLimit : Nat := 4095

/-- The subtree at a path of plain names. -/
def at? : FileTree → List String → Option FileTree
  | tree, [] => some tree
  | .folder entries, name :: path => entries.lookup name >>= (at? · path)
  | _, _ :: _ => none

/-- The steps a path takes from the root. A path that ends in a slash asks for a
folder, which a dot at the end asks for too. -/
def steps (path : List Char) : List String :=
  (Path.split '/' path).map fun part => if part = [] then "." else String.ofList part

/-- Follow steps from a place in the tree, given by the plain names that lead
there. The answer is the place reached, without any links on the way. -/
def walk (root : FileTree) (links : Nat) (place : List String) :
    List String → Except FileError (List String)
  | [] => .ok place
  | step :: rest =>
      match root.at? place with
      | some (.folder entries) =>
          if step = "." then walk root links place rest
          else if step = ".." then walk root links place.dropLast rest
          else if nameLimit < step.utf8ByteSize then .error .nameTooLong
          else
            match entries.lookup step with
            | none => .error .notFound
            | some (.link target) =>
                match links with
                | 0 => .error .tooManyLinks
                | links + 1 =>
                    let start := if target.startsWith "/" then [] else place
                    walk root links start (steps target.toList ++ rest)
            | some _ => walk root links (place ++ [step]) rest
      | some _ => .error .notDirectory
      | none => .error .notFound
termination_by remaining => (links, remaining.length)

/-- The place that a path leads to. Relative paths start at the root. -/
def locate (root : FileTree) (path : String) : Except FileError (List String) :=
  if path.isEmpty then .error .notFound
  else if path.toList.contains '\x00' then .error .nulInPath
  else if pathLimit < path.utf8ByteSize then .error .nameTooLong
  else if path.toList.any (· ≠ '/') then walk root linkLimit [] (steps path.toList)
  else .ok []

/-- The subtree that a path leads to. -/
def find (root : FileTree) (path : String) : Except FileError FileTree := do
  let place ← root.locate path
  match root.at? place with
  | some tree => return tree
  | none => throw .notFound

def isFile : FileTree → Bool
  | .file _ => true
  | _ => false

/-- The questions of a program, answered from a tree. -/
def fileSystem (root : FileTree) : FileSystem Id where
  read path :=
    match root.find path with
    | .error cause => .error cause
    | .ok (.file content) => .ok content
    | .ok _ => .error .isDirectory
  list path :=
    match root.find path with
    | .error cause => .error cause
    | .ok (.folder entries) =>
        .ok (entries.map fun (name, tree) => ⟨some name, tree.isFile⟩)
    | .ok _ => .error .notDirectory
  exists? path := (root.find path).isOk
  canonical path := (root.locate path).map fun place => "/" ++ "/".intercalate place

/-! Building trees. -/

/-- Change the folder at a place of plain names. -/
def within (change : List (String × FileTree) → List (String × FileTree)) :
    List String → FileTree → FileTree
  | [], .folder entries => .folder (change entries)
  | name :: path, .folder entries =>
      .folder (entries.map fun (other, tree) =>
        if other = name then (other, within change path tree) else (other, tree))
  | _, tree => tree

/-- Write a tree under a name of a folder. -/
def writeEntry (name : String) (tree : FileTree) :
    List (String × FileTree) → List (String × FileTree)
  | [] => [(name, tree)]
  | entry :: rest =>
      if entry.1 = name then (name, tree) :: rest else entry :: writeEntry name tree rest

/-- Make the folders on the way that are missing; the place of the last one. -/
def makeFolders (root : FileTree) (place : List String) :
    List String → FileTree × List String
  | [] => (root, place)
  | name :: path =>
      match walk root linkLimit place [name] with
      | .ok next => makeFolders root next path
      | .error _ =>
          makeFolders (root.within (writeEntry name empty) place) (place ++ [name]) path

/-- Write a tree at a path, with the folders that lead there. -/
def write (root : FileTree) (path : String) (tree : FileTree) : FileTree :=
  let names := (Path.parts path.toList).map String.ofList
  match names.getLast? with
  | none => root
  | some name =>
      let (root, place) := root.makeFolders [] names.dropLast
      root.within (writeEntry name tree) place

/-- Make a folder at a path, with those that lead there. -/
def makeFolder (root : FileTree) (path : String) : FileTree :=
  (root.makeFolders [] ((Path.parts path.toList).map String.ofList)).1

end FileTree

end LanguageWorker
