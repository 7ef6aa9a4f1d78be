import LanguageWorker.Proofs.Files.Path
import LanguageWorker.Proofs.Files.Walk
import LanguageWorker.Proofs.OrderedMap
import LanguageWorker.Proofs.Results

namespace LanguageWorker.FileTree

/-! Where paths lead. What is answered about a path is what stands where it leads, so that two
trees answer alike if they show the same along the way. -/

variable {root other tree : FileTree} {path folder name : String} {place : List String}
  {entries : List (String × FileTree)}

/-- What a path leads to. Slashes alone lead to the root, whatever that is. -/
inductive LeadsTo (root : FileTree) (path : String) : FileTree → Prop
  | root (askable : Askable path) (slashes : ∀ character ∈ path.toList, character = '/') :
      LeadsTo root path root
  | walk {left : Nat} {place : List String} {tree : FileTree} (askable : Askable path)
      (named : ∃ character ∈ path.toList, character ≠ '/')
      (walks : Walks root linkLimit [] (steps path.toList) left place)
      (there : root.at? place = some tree) : LeadsTo root path tree

/-! ## Finding -/

theorem any_ne_slash_iff :
    path.toList.any (· ≠ '/') ↔ ∃ character ∈ path.toList, character ≠ '/' := by
  simp only [List.any_eq_true, decide_eq_true_eq]

theorem askable_of_locate (located : root.locate path = .ok place) : Askable path := by
  unfold locate at located
  split at located
  · cases located
  · next filled =>
      split at located
      · cases located
      · next noNul =>
          split at located
          · cases located
          · next short =>
              exact ⟨by simpa using filled, by simpa using noNul, Nat.le_of_not_lt short⟩

theorem find_eq_ok_iff_locate :
    root.find path = .ok tree ↔
      ∃ place, root.locate path = .ok place ∧ root.at? place = some tree := by
  refine Results.bind_eq_ok_iff.trans (exists_congr fun place => and_congr_right fun _ => ?_)
  cases root.at? place with
  | none => exact iff_of_false nofun nofun
  | some other => exact (Except.ok.injEq _ _).to_iff.trans (Option.some.injEq _ _).to_iff.symm

theorem find_eq_ok_iff : root.find path = .ok tree ↔ LeadsTo root path tree := by
  rw [find_eq_ok_iff_locate]
  constructor
  · intro found
    rcases found with ⟨place, located, there⟩
    have askable := askable_of_locate located
    rw [locate_of_askable root askable] at located
    split at located
    · next named =>
        rcases walk_eq_ok_iff.1 located with ⟨left, walks⟩
        exact .walk askable (any_ne_slash_iff.1 named) walks there
    · next slashes =>
        cases located
        cases there
        refine .root askable fun character listed => ?_
        by_contra other
        exact slashes (any_ne_slash_iff.2 ⟨character, listed, other⟩)
  · intro leads
    cases leads with
    | root askable slashes =>
        refine ⟨[], ?_, rfl⟩
        rw [locate_of_askable root askable, if_neg]
        rw [any_ne_slash_iff]
        rintro ⟨character, listed, other⟩
        exact other (slashes character listed)
    | walk askable named walks there =>
        refine ⟨_, ?_, there⟩
        rw [locate_of_askable root askable, if_pos (any_ne_slash_iff.2 named), walks.walk_eq]

theorem read_eq_ok_iff {content : ByteArray} :
    root.fileSystem.read path = .ok content ↔ LeadsTo root path (.file content) := by
  rw [← find_eq_ok_iff]
  simp only [fileSystem]
  cases root.find path with
  | error cause => simp only [reduceCtorEq]
  | ok tree =>
      cases tree with
      | file other =>
          constructor
          · intro same
            cases same
            rfl
          · intro same
            cases same
            rfl
      | folder entries => simp only [reduceCtorEq, Except.ok.injEq]
      | link target => simp only [reduceCtorEq, Except.ok.injEq]

theorem list_eq_ok_iff {listing : List FolderEntry} :
    root.fileSystem.list path = .ok listing ↔ ∃ entries, LeadsTo root path (.folder entries) ∧
      listing = entries.map fun entry => ⟨some entry.1, entry.2.isFile⟩ := by
  simp only [← find_eq_ok_iff, fileSystem]
  cases root.find path with
  | error cause => simp
  | ok tree =>
      cases tree with
      | file content => simp
      | link target => simp
      | folder entries =>
          constructor
          · intro same
            cases same
            exact ⟨entries, rfl, rfl⟩
          · intro described
            rcases described with ⟨_, same, rfl⟩
            cases same
            rfl

/-! ## Trees that show the same -/

/-- What is read is told by the looks of what is found. -/
def Sight.content : Sight → Except FileError ByteArray
  | .file content => .ok content
  | _ => .error .isDirectory

/-- A name that an entry of a folder can be asked for by. -/
structure EntryName (name : String) : Prop extends Named name where
  filled : name ≠ ""
  noSlash : '/' ∉ name.toList
  noNul : '\x00' ∉ name.toList

theorem steps_append (front back : List Char) :
    steps (front ++ '/' :: back) = steps front ++ steps back := by
  rw [steps, Path.split_append, List.map_append, ← steps, ← steps]

theorem EntryName.steps_eq (proper : EntryName name) : steps name.toList = [name] := by
  have filled : name.toList ≠ [] := by simpa using proper.filled
  rw [steps, Path.split_of_not_mem proper.noSlash, List.map_singleton, if_neg filled,
    String.ofList_toList]

/-- Slashes alone stay at the root, as long as that is a folder. -/
theorem walks_of_slashes {links : Nat} {characters : List Char}
    (folder : root.sightAt? place = some .folder)
    (slashes : ∀ character ∈ characters, character = '/') :
    Walks root links place (steps characters) links place := by
  induction characters with
  | nil => exact .stay folder .done
  | cons character rest induction =>
      rcases List.forall_mem_cons.1 slashes with ⟨rfl, later⟩
      exact .stay folder (induction later)

theorem LeadsTo.exists_walks (leads : LeadsTo root path (.folder entries)) :
    ∃ left place, Walks root linkLimit [] (steps path.toList) left place ∧
      root.at? place = some (.folder entries) := by
  cases leads with
  | root askable slashes => exact ⟨linkLimit, [], walks_of_slashes rfl slashes, rfl⟩
  | walk askable named walks there => exact ⟨_, _, walks, there⟩

/-- A slash at the end of a path to a folder changes nothing. -/
theorem Walks.of_slash {links left : Nat} {way last : List String}
    (walks : Walks root links place (way ++ ["."]) left last) :
    Walks root links place way left last := by
  rcases walks.split with ⟨between, middle, first, second⟩
  generalize dot : "." = step at second
  cases second with
  | stay _ later =>
      cases later
      exact first
  | up => exact absurd dot (by decide)
  | enter _ named => exact absurd dot.symm named.not_dot
  | follow _ named => exact absurd dot.symm named.not_dot

theorem Askable.join (askable : Askable folder) (noNul : '\x00' ∉ name.toList)
    (short : (Path.join folder name).utf8ByteSize ≤ pathLimit) :
    Askable (Path.join folder name) := by
  rcases Path.exists_toList_join askable.filled name with ⟨front, joined, given⟩
  have before : '\x00' ∉ front := by
    intro listed
    apply askable.noNul
    rcases given with same | same
    · exact same ▸ listed
    · exact same ▸ List.mem_append_left _ listed
  refine ⟨?_, ?_, short⟩
  · intro empty
    rw [empty] at joined
    exact List.append_ne_nil_of_right_ne_nil front (List.cons_ne_nil _ _) joined.symm
  · rw [joined, List.mem_append, List.mem_cons, not_or, not_or]
    exact ⟨before, by decide, noNul⟩

/-- What a folder holds under a name is where the joined path leads, unless it is a link. -/
theorem LeadsTo.join (leads : LeadsTo root folder (.folder entries)) (proper : EntryName name)
    (there : entries.lookup name = some tree) (plain : ∀ target, tree ≠ .link target)
    (short : (Path.join folder name).utf8ByteSize ≤ pathLimit) :
    LeadsTo root (Path.join folder name) tree := by
  have askable : Askable folder := by cases leads <;> assumption
  rcases leads.exists_walks with ⟨left, place, walks, folderThere⟩
  rcases Path.exists_toList_join askable.filled name with ⟨front, joined, given⟩
  have arrives : Walks root linkLimit [] (steps front) left place := by
    rcases given with same | slash
    · exact same ▸ walks
    · rw [slash, steps_append] at walks
      exact walks.of_slash
  have entered : root.at? (place ++ [name]) = some tree := (at?_concat folderThere name).trans there
  have last : Walks root left place [name] left (place ++ [name]) :=
    .enter (sightAt?_of_at? folderThere) proper.toNamed (sightAt?_of_at? entered)
      (sight_ne_link plain) .done
  have named : ∃ character ∈ (Path.join folder name).toList, character ≠ '/' := by
    rcases List.exists_mem_of_ne_nil name.toList (by simpa using proper.filled) with
      ⟨character, listed⟩
    refine ⟨character, ?_, fun slash => proper.noSlash (slash ▸ listed)⟩
    rw [joined]
    exact List.mem_append_right _ (List.mem_cons_of_mem _ listed)
  have walked : Walks root linkLimit [] (steps (Path.join folder name).toList) left
      (place ++ [name]) := by
    rw [joined, steps_append, proper.steps_eq]
    exact arrives.append last
  exact .walk (askable.join proper.noNul short) named walked entered

/-- Contents as a folder has them: no name is there twice, and each can be asked for. -/
structure Orderly (folder : String) (contents : List (String × FileTree)) : Prop where
  distinct : (contents.map Prod.fst).Nodup
  proper : ∀ entry ∈ contents, EntryName entry.1
  short : ∀ entry ∈ contents, (Path.join folder entry.1).utf8ByteSize ≤ pathLimit

theorem read_join {contents : List (String × FileTree)} {content : ByteArray}
    (leads : LeadsTo root folder (.folder contents)) (orderly : Orderly folder contents)
    (listed : (name, .file content) ∈ contents) :
    root.fileSystem.read (Path.join folder name) = .ok content := by
  have there : contents.lookup name = some (.file content) :=
    @OrderedMap.get?_of_mem_entries FileTree ⟨contents, orderly.distinct⟩ name _ listed
  exact read_eq_ok_iff.2
    (leads.join (orderly.proper _ listed) there nofun (orderly.short _ listed))

end LanguageWorker.FileTree
