import LanguageWorker.Files.Tree
import LanguageWorker.Proofs.Text.Bytes

namespace LanguageWorker

/-! What is answered about the files of a tree, once it is known where a path leads. -/

namespace FileSystem

/-- Bytes are read as the text that they encode. -/
theorem textOf_eq_ok_iff {content : Except FileError ByteArray} {text : String} :
    textOf content = .ok text ↔ content = .ok text.toUTF8 := by
  constructor
  · intro read
    unfold textOf at read
    split at read
    · cases read
    · split at read
      · next decoded =>
          cases read
          unfold String.fromUTF8? at decoded
          split at decoded
          · cases decoded
            rfl
          · cases decoded
      · cases read
  · intro same
    simp only [same, textOf, Text.fromUTF8?_toUTF8]

variable {files : FileSystem Id} {path text : String}

theorem readText_eq_ok_iff : files.readText path = .ok text ↔ files.read path = .ok text.toUTF8 :=
  textOf_eq_ok_iff

theorem readText_of_read (read : files.read path = .ok text.toUTF8) :
    files.readText path = .ok text :=
  readText_eq_ok_iff.2 read

theorem exists_readText_error_iff :
    (∃ cause, files.readText path = .error cause) ↔
      ¬ ∃ text : String, files.read path = .ok text.toUTF8 := by
  simp only [← readText_eq_ok_iff]
  cases files.readText path with
  | error cause => exact iff_of_true ⟨cause, rfl⟩ nofun
  | ok text => exact iff_of_false nofun fun unread => unread ⟨text, rfl⟩

end FileSystem

namespace FileTree

/-- A path that can be asked about at all. -/
structure Askable (path : String) : Prop where
  filled : path ≠ ""
  noNul : '\x00' ∉ path.toList
  short : path.utf8ByteSize ≤ pathLimit

theorem locate_of_askable (tree : FileTree) {path : String} (askable : Askable path) :
    tree.locate path =
      if path.toList.any (· ≠ '/') then tree.walk linkLimit [] (steps path.toList) else .ok [] := by
  have filled : path.isEmpty = false := by simpa using askable.filled
  have noNul : path.toList.contains '\x00' = false := by simpa using askable.noNul
  rw [locate, if_neg (Bool.eq_false_iff.1 filled), if_neg (Bool.eq_false_iff.1 noNul),
    if_neg (Nat.not_lt.2 askable.short)]

theorem locate_of_walk {tree : FileTree} {path : String} {way : List String}
    {place : Except FileError (List String)}
    (proper : path.isEmpty = false ∧ path.toList.contains '\x00' = false ∧
      path.utf8ByteSize ≤ pathLimit ∧ path.toList.any (· ≠ '/') = true)
    (taken : steps path.toList = way) (walked : tree.walk linkLimit [] way = place) :
    tree.locate path = place := by
  rcases proper with ⟨filled, noNul, short, named⟩
  have askable : Askable path := ⟨by simpa using filled, by simpa using noNul, short⟩
  rw [locate_of_askable tree askable, if_pos named, taken, walked]

theorem canonical_of_locate {tree : FileTree} {path : String}
    {place : Except FileError (List String)} (located : tree.locate path = place) :
    tree.fileSystem.canonical path = place.map ("/" ++ "/".intercalate ·) := by
  simp only [fileSystem, located]

theorem read_of_locate {tree : FileTree} {path : String} {place : List String}
    {content : ByteArray} (located : tree.locate path = .ok place)
    (there : tree.at? place = some (.file content)) :
    tree.fileSystem.read path = .ok content := by
  simp only [fileSystem, find, located, bind, Except.bind, there, pure, Except.pure]

theorem refused_of_locate {tree : FileTree} {path : String} {cause : FileError}
    (missing : tree.locate path = .error cause) :
    tree.fileSystem.read path = .error cause ∧ tree.fileSystem.list path = .error cause := by
  simp only [fileSystem, find, missing, bind, Except.bind, and_self]

end FileTree

end LanguageWorker
