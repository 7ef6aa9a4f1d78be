import LanguageWorker.Libraries.LibRegistry
import LanguageWorker.Proofs.Files.Leads
import LanguageWorker.Proofs.Json.Objects
import LanguageWorker.Proofs.OrderedMap
import LanguageWorker.Proofs.Results
import LanguageWorker.Proofs.Text.ByteOrder

namespace LanguageWorker.LibRegistry

/-! The registry of a folder. It holds the declaration files of the folder with their texts, in
the order of the bytes of their names, or else there is none at all and the first file that cannot
be read is to blame. The order in which the folder lists its entries does not matter. -/

variable {files others : FileSystem Id} {folder name text : String}
  {entries listing : List FolderEntry} {names : List String} {cause : FileError}

/-! ## Declaration files -/

/-- A folder lists a declaration file: a regular file whose name has the ending. -/
def Declares (entries : List FolderEntry) (name : String) : Prop :=
  ⟨some name, true⟩ ∈ entries ∧ ∃ stem, name = stem ++ ".d.ts"

theorem isSuffixOf_iff_exists_stem :
    declarationSuffix.toList.isSuffixOf name.toList ↔ ∃ stem, name = stem ++ ".d.ts" := by
  rw [List.isSuffixOf_iff_suffix]
  constructor
  · intro ends
    rcases ends with ⟨stem, split⟩
    refine ⟨String.ofList stem, String.toList_inj.1 ?_⟩
    rw [String.toList_append, String.toList_ofList]
    exact split.symm
  · intro described
    rcases described with ⟨stem, rfl⟩
    rw [String.toList_append]
    exact List.suffix_append _ _

theorem declarationName?_eq_some_iff {entry : FolderEntry} :
    declarationName? entry = some name ↔
      entry = ⟨some name, true⟩ ∧ ∃ stem, name = stem ++ ".d.ts" := by
  rcases entry with ⟨_ | other, regular⟩
  · exact iff_of_false nofun nofun
  · simp only [declarationName?]
    split
    · next both =>
        rw [Bool.and_eq_true, isSuffixOf_iff_exists_stem] at both
        rcases both with ⟨rfl, ends⟩
        constructor
        · intro same
          cases same
          exact ⟨rfl, ends⟩
        · intro described
          cases described.1
          rfl
    · next neither =>
        rw [Bool.and_eq_true, isSuffixOf_iff_exists_stem] at neither
        refine iff_of_false nofun fun described => ?_
        cases described.1
        exact neither ⟨rfl, described.2⟩

theorem mem_declarationNames_iff : name ∈ declarationNames entries ↔ Declares entries name := by
  rw [declarationNames, List.mem_mergeSort, List.mem_filterMap, Declares]
  simp only [declarationName?_eq_some_iff]
  constructor
  · intro listed
    rcases listed with ⟨_, member, rfl, ends⟩
    exact ⟨member, ends⟩
  · intro declared
    exact ⟨_, declared.1, rfl, declared.2⟩

theorem pairwise_declarationNames (entries : List FolderEntry) :
    (declarationNames entries).Pairwise (· ≤ ·) := by
  refine (List.pairwise_mergeSort ?_ ?_ _).imp of_decide_eq_true
  · intro first second third
    simp only [decide_eq_true_eq]
    exact String.le_trans
  · intro first second
    rw [Bool.or_eq_true, decide_eq_true_eq, decide_eq_true_eq]
    exact String.le_total first second

/-- The order of the listing does not matter. -/
theorem declarationNames_perm (permuted : listing.Perm entries) :
    declarationNames listing = declarationNames entries := by
  refine List.Perm.eq_of_pairwise (fun _ _ _ _ => String.le_antisymm)
    (pairwise_declarationNames listing) (pairwise_declarationNames entries) ?_
  exact (List.mergeSort_perm _ _).trans
    ((permuted.filterMap declarationName?).trans (List.mergeSort_perm _ _).symm)

/-! ## Reading -/

theorem readAll_cons (files : FileSystem Id) (folder name : String) (names : List String) :
    readAll files folder (name :: names) =
      match files.readText (Path.join folder name) with
      | .error cause => .error cause
      | .ok text =>
          match readAll files folder names with
          | .error cause => .error cause
          | .ok others => .ok ((name, text) :: others) :=
  rfl

/-- All the files are read, each under its name. -/
theorem texts_of_readAll {read : List (String × String)}
    (succeeds : readAll files folder names = .ok read) :
    read.map Prod.fst = names ∧
      ∀ entry ∈ read, files.readText (Path.join folder entry.1) = .ok entry.2 := by
  induction names generalizing read with
  | nil =>
      cases succeeds
      exact ⟨rfl, List.forall_mem_nil _⟩
  | cons name names induction =>
      rw [readAll_cons] at succeeds
      split at succeeds
      · cases succeeds
      · next text here =>
          split at succeeds
          · cases succeeds
          · next others later =>
              cases succeeds
              rcases induction later with ⟨named, each⟩
              exact ⟨congrArg (name :: ·) named, List.forall_mem_cons.2 ⟨here, each⟩⟩

theorem readAll_cons_of_error (here : files.readText (Path.join folder name) = .error cause) :
    readAll files folder (name :: names) = .error cause := by
  rw [readAll_cons, here]

theorem readAll_cons_of_ok (here : files.readText (Path.join folder name) = .ok text) :
    readAll files folder (name :: names) = .error cause ↔
      readAll files folder names = .error cause := by
  rw [readAll_cons, here]
  cases readAll files folder names with
  | error other => rfl
  | ok others => exact iff_of_false nofun nofun

/-- The first file that cannot be read is to blame. As the names are in order, all that come
before it in the order have been read by then. -/
theorem readAll_eq_error_iff (ordered : names.Pairwise (· ≤ ·)) :
    readAll files folder names = .error cause ↔
      ∃ name ∈ names, files.readText (Path.join folder name) = .error cause ∧
        ∀ other ∈ names, other < name →
          ∃ text, files.readText (Path.join folder other) = .ok text := by
  induction names with
  | nil => exact iff_of_false nofun (by simp)
  | cons first names induction =>
      rcases List.pairwise_cons.1 ordered with ⟨before, later⟩
      have least : ∀ name ∈ first :: names, first ≤ name :=
        List.forall_mem_cons.2 ⟨String.le_refl first, before⟩
      cases here : files.readText (Path.join folder first) with
      | error other =>
          rw [readAll_cons_of_error here]
          constructor
          · intro fails
            cases fails
            refine ⟨first, List.mem_cons_self, here, fun name listed smaller => ?_⟩
            exact absurd smaller (String.not_lt.2 (least name listed))
          · intro described
            rcases described with ⟨name, listed, unread, earlier⟩
            have notSmaller : ¬ first < name := by
              intro smaller
              rcases earlier first List.mem_cons_self smaller with ⟨text, read⟩
              cases here.symm.trans read
            cases String.le_antisymm (least name listed) (String.not_lt.1 notSmaller)
            cases here.symm.trans unread
            rfl
      | ok text =>
          rw [readAll_cons_of_ok here, induction later]
          constructor
          · intro described
            rcases described with ⟨name, listed, unread, earlier⟩
            exact ⟨name, List.mem_cons_of_mem _ listed, unread,
              List.forall_mem_cons.2 ⟨fun _ => ⟨text, here⟩, earlier⟩⟩
          · intro described
            rcases described with ⟨name, listed, unread, earlier⟩
            rcases List.mem_cons.1 listed with rfl | listed
            · cases here.symm.trans unread
            · exact ⟨name, listed, unread, (List.forall_mem_cons.1 earlier).2⟩

theorem readAll_congr
    (same : ∀ name ∈ names,
      others.read (Path.join folder name) = files.read (Path.join folder name)) :
    readAll others folder names = readAll files folder names := by
  induction names with
  | nil => rfl
  | cons name names induction =>
      rcases List.forall_mem_cons.1 same with ⟨here, later⟩
      rw [readAll_cons, readAll_cons, induction later, FileSystem.readText, FileSystem.readText,
        here]

theorem ofFolder_eq (files : FileSystem Id) (folder : String) :
    ofFolder files folder =
      match files.list folder with
      | .error cause => .error cause
      | .ok entries =>
          match readAll files folder (declarationNames entries) with
          | .error cause => .error cause
          | .ok read => .ok (OrderedMap.ofList read) :=
  rfl

/-! ## The registry -/

/-- Why a folder has no registry: it cannot be listed, or there is a first one among its
declaration files that cannot be read. -/
inductive Fails (files : FileSystem Id) (folder : String) : FileError → Prop
  | unlisted {cause : FileError} (missing : files.list folder = .error cause) :
      Fails files folder cause
  | unreadable {entries : List FolderEntry} {name : String} {cause : FileError}
      (listed : files.list folder = .ok entries) (declared : Declares entries name)
      (unread : files.readText (Path.join folder name) = .error cause)
      (first : ∀ other, Declares entries other → Text.bytesOf other < Text.bytesOf name →
        ∃ text : String, files.read (Path.join folder other) = .ok text.toUTF8) :
      Fails files folder cause

theorem ofFolder_of_unlisted (missing : files.list folder = .error cause) :
    ofFolder files folder = .error cause := by
  rw [ofFolder_eq, missing]

theorem ofFolder_of_listed (listed : files.list folder = .ok entries) :
    ofFolder files folder =
      (readAll files folder (declarationNames entries)).map OrderedMap.ofList := by
  rw [ofFolder_eq, listed]
  dsimp only
  cases readAll files folder (declarationNames entries) <;> rfl

theorem ofFolder_eq_error_iff :
    ofFolder files folder = .error cause ↔ Fails files folder cause := by
  cases listing : files.list folder with
  | error other =>
      rw [ofFolder_of_unlisted listing]
      constructor
      · intro fails
        cases fails
        exact .unlisted listing
      · intro fails
        cases fails with
        | unlisted missing =>
            cases listing.symm.trans missing
            rfl
        | unreadable listed => cases listing.symm.trans listed
  | ok entries =>
      rw [ofFolder_of_listed listing, Results.map_eq_error_iff,
        readAll_eq_error_iff (pairwise_declarationNames entries)]
      simp only [mem_declarationNames_iff, Text.lt_iff_bytesOf_lt, FileSystem.readText_eq_ok_iff]
      constructor
      · intro blamed
        rcases blamed with ⟨name, declared, unread, first⟩
        exact .unreadable listing declared unread first
      · intro fails
        cases fails with
        | unlisted missing => cases listing.symm.trans missing
        | unreadable listed declared unread first =>
            cases listing.symm.trans listed
            exact ⟨_, declared, unread, first⟩

/-- A registry that holds the declaration files of a folder, and nothing else. All ways to look
into it agree. -/
structure Holds (files : FileSystem Id) (folder : String) (entries : List FolderEntry)
    (registry : LibRegistry) : Prop where
  get?_iff : ∀ name (text : String), registry.get? name = some text ↔
    Declares entries name ∧ files.read (Path.join folder name) = .ok text.toUTF8
  contains_iff : ∀ name, registry.contains name ↔ Declares entries name
  mem_keys_iff : ∀ name, name ∈ registry.keys ↔ Declares entries name
  /-- The names come in the order of their bytes, each of them once. -/
  ascending : registry.keys.Pairwise fun first second => Text.bytesOf first < Text.bytesOf second
  mem_entries_iff : ∀ name text, (name, text) ∈ registry.entries ↔ registry.get? name = some text
  keys_eq : registry.keys = registry.entries.map Prod.fst
  size_eq : registry.size = registry.keys.length
  /-- The members of the written form are the entries, in that order. -/
  toJson_eq : registry.toJson =
    .object (registry.entries.map fun entry => (entry.1, .string entry.2))

variable {read : List (String × String)} {registry : LibRegistry}

/-- Each name has one text, even where it is listed more than once. -/
theorem get?_ofList_of_readAll (succeeds : readAll files folder names = .ok read) :
    (OrderedMap.ofList read).get? name = some text ↔
      name ∈ names ∧ files.readText (Path.join folder name) = .ok text := by
  rcases texts_of_readAll succeeds with ⟨rfl, each⟩
  rcases OrderedMap.absent_or_lastEntry read name with absent | ⟨value, last⟩
  · rw [OrderedMap.get?_ofList_of_absent absent]
    refine iff_of_false nofun fun described => ?_
    rcases List.mem_map.1 described.1 with ⟨entry, listed, same⟩
    exact absent entry listed same
  · have listed : (name, value) ∈ read := last.mem
    have there : name ∈ read.map Prod.fst := List.mem_map.2 ⟨_, listed, rfl⟩
    have one : files.readText (Path.join folder name) = .ok value := each _ listed
    rw [OrderedMap.get?_ofList_of_lastEntry last, and_iff_right there, one]
    constructor
    · intro same
      exact congrArg Except.ok (Option.some.inj same)
    · intro same
      exact congrArg some (Except.ok.inj same)

theorem mem_keys_ofList_of_readAll (succeeds : readAll files folder names = .ok read) :
    name ∈ (OrderedMap.ofList read).keys ↔ name ∈ names := by
  rw [← OrderedMap.contains_iff, OrderedMap.contains_iff_get?]
  simp only [get?_ofList_of_readAll succeeds, exists_and_left]
  apply and_iff_left_of_imp
  intro listed
  rcases texts_of_readAll succeeds with ⟨rfl, each⟩
  rcases List.mem_map.1 listed with ⟨entry, member, rfl⟩
  exact ⟨entry.2, each entry member⟩

theorem pairwise_keys_ofList (ordered : (read.map Prod.fst).Pairwise (· ≤ ·)) :
    (OrderedMap.ofList read).keys.Pairwise (· < ·) := by
  have ascending := ordered.sublist (OrderedMap.keys_ofList_sublist read)
  exact (ascending.and (OrderedMap.ofList read).distinct).imp
    fun both => Std.lt_of_le_of_ne both.1 both.2

theorem toJson_of_pairwise (ascending : registry.keys.Pairwise (· < ·)) :
    registry.toJson = .object (registry.entries.map fun entry => (entry.1, .string entry.2)) := by
  apply Json.ofMembers_of_perm _ (.refl _)
  exact List.pairwise_map.2 (List.pairwise_map.1 ascending)

theorem holds_of_ofFolder (listed : files.list folder = .ok entries)
    (loaded : ofFolder files folder = .ok registry) : Holds files folder entries registry := by
  rw [ofFolder_of_listed listed] at loaded
  rcases Results.map_eq_ok_iff.1 loaded with ⟨read, succeeds, rfl⟩
  have named := (texts_of_readAll succeeds).1
  have ascending : (OrderedMap.ofList read).keys.Pairwise (· < ·) :=
    pairwise_keys_ofList (named ▸ pairwise_declarationNames entries)
  have found (name text : String) : (OrderedMap.ofList read).get? name = some text ↔
      Declares entries name ∧ files.read (Path.join folder name) = .ok text.toUTF8 := by
    rw [get?_ofList_of_readAll succeeds, mem_declarationNames_iff, FileSystem.readText_eq_ok_iff]
  have keys (name : String) : name ∈ (OrderedMap.ofList read).keys ↔ Declares entries name :=
    (mem_keys_ofList_of_readAll succeeds).trans mem_declarationNames_iff
  exact {
    get?_iff := found
    contains_iff := fun name => OrderedMap.contains_iff.trans (keys name)
    mem_keys_iff := keys
    ascending := ascending.imp Text.lt_iff_bytesOf_lt.1
    mem_entries_iff := fun name text =>
      ⟨OrderedMap.get?_of_mem_entries, OrderedMap.mem_entries_of_get?⟩
    keys_eq := rfl
    size_eq := (OrderedMap.size_keys _).symm
    toJson_eq := toJson_of_pairwise ascending }

/-- How a folder's registry comes about, or fails to. -/
structure LoadsFolder (files : FileSystem Id) (folder : String) : Prop where
  error_iff : ∀ cause, ofFolder files folder = .error cause ↔ Fails files folder cause
  /-- Nothing but a missing listing or a file without a text is in the way. -/
  fails_iff : (∃ cause, ofFolder files folder = .error cause) ↔
    (∃ cause, files.list folder = .error cause) ∨
      ∃ entries name, files.list folder = .ok entries ∧ Declares entries name ∧
        ¬ ∃ text : String, files.read (Path.join folder name) = .ok text.toUTF8
  holds : ∀ entries registry, files.list folder = .ok entries →
    ofFolder files folder = .ok registry → Holds files folder entries registry
  /-- The same entries in another order, and the same declaration files, give the same. -/
  unordered : ∀ (others : FileSystem Id) entries listing, files.list folder = .ok entries →
    others.list folder = .ok listing → listing.Perm entries →
    (∀ name, Declares entries name →
      others.read (Path.join folder name) = files.read (Path.join folder name)) →
    ofFolder others folder = ofFolder files folder

theorem not_readable (unread : files.readText (Path.join folder name) = .error cause) :
    ¬ ∃ text : String, files.read (Path.join folder name) = .ok text.toUTF8 :=
  FileSystem.exists_readText_error_iff.1 ⟨cause, unread⟩

theorem loadsFolder_files (files : FileSystem Id) (folder : String) : LoadsFolder files folder where
  error_iff := fun _ => ofFolder_eq_error_iff
  fails_iff := by
    constructor
    · intro fails
      rcases fails with ⟨cause, fails⟩
      cases ofFolder_eq_error_iff.1 fails with
      | unlisted missing => exact .inl ⟨cause, missing⟩
      | unreadable listed declared unread =>
          exact .inr ⟨_, _, listed, declared, not_readable unread⟩
    · intro described
      rcases described with ⟨cause, missing⟩ | ⟨entries, name, listed, declared, unread⟩
      · exact ⟨cause, ofFolder_of_unlisted missing⟩
      · cases loaded : ofFolder files folder with
        | error cause => exact ⟨cause, rfl⟩
        | ok registry =>
            have holds := holds_of_ofFolder listed loaded
            have contained := (holds.contains_iff name).2 declared
            rcases OrderedMap.contains_iff_get?.1 contained with ⟨text, found⟩
            exact absurd ⟨text, ((holds.get?_iff name text).1 found).2⟩ unread
  holds := fun _ _ => holds_of_ofFolder
  unordered := by
    intro others entries listing listed otherListed permuted same
    rw [ofFolder_of_listed listed, ofFolder_of_listed otherListed, declarationNames_perm permuted,
      readAll_congr fun name member => same name (mem_declarationNames_iff.1 member)]

/-! ## Folders of a tree -/

/-- How the registry of a folder comes about in a tree of files. -/
structure LoadsFolderInTree (root : FileTree) (folder : String) : Prop where
  listed_iff : (∃ listing, root.fileSystem.list folder = .ok listing) ↔
    ∃ contents, root.LeadsTo folder (.folder contents)
  /-- Neither folders nor links are declaration files, whatever they are called. -/
  declares_iff : ∀ contents listing, root.LeadsTo folder (.folder contents) →
    root.fileSystem.list folder = .ok listing → ∀ name, Declares listing name ↔
      (∃ content, (name, .file content) ∈ contents) ∧ ∃ stem, name = stem ++ ".d.ts"
  fails_iff : ∀ contents, root.LeadsTo folder (.folder contents) →
    FileTree.Orderly folder contents →
    ((∃ cause, ofFolder root.fileSystem folder = .error cause) ↔
      ∃ name content, (name, .file content) ∈ contents ∧ (∃ stem, name = stem ++ ".d.ts") ∧
        ¬ ∃ text : String, content = text.toUTF8)
  /-- The registry holds the contents of the files. -/
  get?_iff : ∀ contents registry, root.LeadsTo folder (.folder contents) →
    FileTree.Orderly folder contents → ofFolder root.fileSystem folder = .ok registry →
    ∀ name (text : String), registry.get? name = some text ↔
      (name, .file text.toUTF8) ∈ contents ∧ ∃ stem, name = stem ++ ".d.ts"

variable {root : FileTree} {contents : List (String × FileTree)}

theorem list_of_leadsTo (leads : root.LeadsTo folder (.folder contents)) :
    root.fileSystem.list folder =
      .ok (contents.map fun entry => ⟨some entry.1, entry.2.isFile⟩) :=
  FileTree.list_eq_ok_iff.2 ⟨contents, leads, rfl⟩

theorem declares_contents_iff :
    Declares (contents.map fun entry => ⟨some entry.1, entry.2.isFile⟩) name ↔
      (∃ content, (name, .file content) ∈ contents) ∧ ∃ stem, name = stem ++ ".d.ts" := by
  refine and_congr_left fun _ => ?_
  rw [List.mem_map]
  constructor
  · intro listed
    rcases listed with ⟨⟨other, tree⟩, member, same⟩
    cases tree with
    | file content =>
        cases same
        exact ⟨content, member⟩
    | folder entries => cases same
    | link target => cases same
  · intro listed
    rcases listed with ⟨content, member⟩
    exact ⟨_, member, rfl⟩

theorem loadsFolder_tree (root : FileTree) (folder : String) : LoadsFolderInTree root folder where
  listed_iff := by
    constructor
    · intro listed
      rcases listed with ⟨listing, listed⟩
      exact (FileTree.list_eq_ok_iff.1 listed).imp fun _ described => described.1
    · intro leads
      rcases leads with ⟨contents, leads⟩
      exact ⟨_, list_of_leadsTo leads⟩
  declares_iff := by
    intro contents listing leads listed name
    cases (list_of_leadsTo leads).symm.trans listed
    exact declares_contents_iff
  fails_iff := by
    intro contents leads orderly
    have listed := list_of_leadsTo leads
    rw [(loadsFolder_files root.fileSystem folder).fails_iff]
    constructor
    · intro fails
      rcases fails with ⟨cause, missing⟩ | ⟨entries, name, given, declared, unread⟩
      · cases listed.symm.trans missing
      · cases listed.symm.trans given
        rcases declares_contents_iff.1 declared with ⟨⟨content, member⟩, ends⟩
        refine ⟨name, content, member, ends, fun decoded => unread ?_⟩
        rcases decoded with ⟨text, rfl⟩
        exact ⟨text, FileTree.read_join leads orderly member⟩
    · intro described
      rcases described with ⟨name, content, member, ends, noText⟩
      refine .inr ⟨_, name, listed, declares_contents_iff.2 ⟨⟨content, member⟩, ends⟩, ?_⟩
      intro readable
      rcases readable with ⟨text, read⟩
      cases (FileTree.read_join leads orderly member).symm.trans read
      exact noText ⟨text, rfl⟩
  get?_iff := by
    intro contents registry leads orderly loaded name text
    rw [(holds_of_ofFolder (list_of_leadsTo leads) loaded).get?_iff, declares_contents_iff]
    constructor
    · intro found
      rcases found with ⟨⟨⟨content, member⟩, ends⟩, read⟩
      cases (FileTree.read_join leads orderly member).symm.trans read
      exact ⟨member, ends⟩
    · intro described
      exact ⟨⟨⟨_, described.1⟩, described.2⟩, FileTree.read_join leads orderly described.1⟩

/-- The registry of a folder comes about in the same way whatever files there are; in a tree it is
known besides what the folder holds. -/
theorem loadsFolder (folder : String) :
    (∀ files : FileSystem Id, LoadsFolder files folder) ∧
      ∀ root : FileTree, LoadsFolderInTree root folder :=
  ⟨fun files => loadsFolder_files files folder, fun root => loadsFolder_tree root folder⟩

end LanguageWorker.LibRegistry
