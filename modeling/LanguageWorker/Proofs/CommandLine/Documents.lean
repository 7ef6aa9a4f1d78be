import LanguageWorker.Proofs.CommandLine.Arguments
import LanguageWorker.Proofs.CommandLine.Stages
import LanguageWorker.Proofs.Documents.Operations
import LanguageWorker.Proofs.Files.Tree
import LanguageWorker.Proofs.Host.Sources
import LanguageWorker.Proofs.Payload.Loaded
import LanguageWorker.Proofs.Text.Percent
import Mathlib

namespace LanguageWorker.CommandLine

/-! The documents of an invocation. However they are spelled, they are opened by their canonical
paths, and no two paths share a URI. The main statement says what is printed when all of them
can be opened, and that otherwise the first that cannot be decides. -/

theorem documentUri_injective : Function.Injective documentUri := by
  intro first second same
  exact Text.percentEncoded_injective ((String.append_right_inj "file://").1 same)

/-- A URI fills one line, whatever is in the path. -/
theorem newline_not_mem_documentUri (path : String) : '\n' ∉ (documentUri path).toList := by
  intro listed
  rw [documentUri, String.toList_append, List.mem_append] at listed
  rcases listed with scheme | encoded
  · exact absurd scheme (by decide)
  · exact absurd (Text.plain_of_mem_percentEncoded encoded) (by decide)

/-- An argument names a file with a text. -/
structure Opens (files : FileSystem Id) (argument path text : String) : Prop where
  canonical : files.canonical argument = .ok path
  readText : files.readText path = .ok text

/-- What goes wrong with an argument that cannot be opened. -/
inductive Fails (files : FileSystem Id) (argument : String) : Failure → Prop
  | canonical {cause : FileError} (refused : files.canonical argument = .error cause) :
      Fails files argument (.openDocument argument cause)
  | readText {path : String} {cause : FileError} (found : files.canonical argument = .ok path)
      (refused : files.readText path = .error cause) :
      Fails files argument (.readDocument path cause)

variable {files : FileSystem Id} {argument path text : String} {store : Store}

theorem opens_or_fails (files : FileSystem Id) (argument : String) :
    (∃ path text, Opens files argument path text) ∨ ∃ failure, Fails files argument failure := by
  cases found : files.canonical argument with
  | error cause => exact .inr ⟨_, .canonical found⟩
  | ok path =>
      cases content : files.readText path with
      | error cause => exact .inr ⟨_, .readText found content⟩
      | ok text => exact .inl ⟨path, text, found, content⟩

theorem openDocument_of_opens (opens : Opens files argument path text) (store : Store) :
    openDocument files store argument = .ok (store.openDocument (documentUri path) text 1) := by
  simp only [openDocument, bind, pure, opens.canonical, opens.readText]

theorem openDocument_of_fails {failure : Failure} (fails : Fails files argument failure)
    (store : Store) : openDocument files store argument = .error failure := by
  cases fails with
  | canonical refused => simp only [openDocument, bind, pure, refused]
  | readText found refused => simp only [openDocument, bind, pure, found, refused]

/-! ## Opening one document after the other -/

/-- Each argument opens the path at its place. -/
def OpensAll (files : FileSystem Id) (documents paths : List String) : Prop :=
  List.Forall₂ (fun argument path => ∃ text, Opens files argument path text) documents paths

/-- Some of the arguments open, and the next one fails. -/
structure FailsAt (files : FileSystem Id) (documents : List String) (failure : Failure)
    (before : List String) (argument : String) (after : List String) : Prop where
  split : documents = before ++ argument :: after
  opened : ∃ paths, OpensAll files before paths
  fails : Fails files argument failure

theorem opensAll_or_failsAt (files : FileSystem Id) (documents : List String) :
    (∃ paths, OpensAll files documents paths) ∨
      ∃ failure before argument after, FailsAt files documents failure before argument after := by
  induction documents with
  | nil => exact .inl ⟨[], .nil⟩
  | cons argument rest induction =>
      rcases opens_or_fails files argument with ⟨path, text, opens⟩ | ⟨failure, fails⟩
      · rcases induction with ⟨paths, opened⟩ | ⟨failure, before, failing, after, failsAt⟩
        · exact .inl ⟨path :: paths, .cons ⟨text, opens⟩ opened⟩
        · rcases failsAt.opened with ⟨paths, opened⟩
          refine .inr ⟨failure, argument :: before, failing, after, ?_, ?_, failsAt.fails⟩
          · rw [failsAt.split, List.cons_append]
          · exact ⟨path :: paths, .cons ⟨text, opens⟩ opened⟩
      · exact .inr ⟨failure, [], argument, rest, rfl, ⟨[], .nil⟩, fails⟩

/-- The documents of some canonical paths are open, in the order in which the paths first
occurred. -/
structure ShowsPaths (files : FileSystem Id) (paths : List String) (store : Store) : Prop where
  keys : store.listing.keys = paths.eraseDups.map documentUri
  get? : ∀ path ∈ paths, ∃ text, files.readText path = .ok text ∧
    store.get? (documentUri path) = some ⟨documentUri path, 1, text⟩

theorem showsPaths_empty (files : FileSystem Id) : ShowsPaths files [] .empty where
  keys := rfl
  get? := nofun

theorem ShowsPaths.mem_keys_iff {paths : List String} (shows : ShowsPaths files paths store) :
    documentUri path ∈ store.listing.keys ↔ path ∈ paths := by
  rw [shows.keys, List.mem_map_of_injective documentUri_injective, List.mem_eraseDups]

/-- Opening one more document. -/
theorem ShowsPaths.openDocument {paths : List String} (shows : ShowsPaths files paths store)
    (readText : files.readText path = .ok text) :
    ShowsPaths files (paths ++ [path]) (store.openDocument (documentUri path) text 1) where
  keys := by
    rw [Store.keys_openDocument, OrderedMap.eraseDups_concat]
    by_cases occurred : path ∈ paths
    · rw [if_pos occurred, if_pos (shows.mem_keys_iff.2 occurred), shows.keys]
    · rw [if_neg occurred, if_neg (mt shows.mem_keys_iff.1 occurred), shows.keys, List.map_append]
      rfl
  get? := by
    intro other listed
    by_cases same : other = path
    · subst same
      exact ⟨text, readText, by rw [Store.get?_openDocument, if_pos rfl]⟩
    · have before := (List.mem_append.1 listed).resolve_right (mt List.mem_singleton.1 same)
      rcases shows.get? other before with ⟨earlier, readEarlier, found⟩
      refine ⟨earlier, readEarlier, ?_⟩
      rw [Store.get?_openDocument, if_neg (mt (documentUri_injective ·) same), found]

/-- Opening all of some documents. -/
theorem ShowsPaths.openDocuments {paths new documents : List String}
    (shows : ShowsPaths files paths store) (each : OpensAll files documents new) :
    ∃ last, openDocuments files store documents = .ok last ∧
      ShowsPaths files (paths ++ new) last := by
  induction each generalizing store paths with
  | nil => exact ⟨store, rfl, by rwa [List.append_nil]⟩
  | @cons argument path documents new here later induction =>
      rcases here with ⟨text, opens⟩
      rcases induction (shows.openDocument opens.readText) with ⟨last, opened, shown⟩
      refine ⟨last, ?_, ?_⟩
      · rw [CommandLine.openDocuments]
        simp only [openDocument_of_opens opens, bind]
        exact opened
      · rwa [List.append_assoc, List.singleton_append] at shown

/-- The first document that cannot be opened decides. -/
theorem openDocuments_of_fails {before after paths : List String} {failure : Failure}
    (opened : OpensAll files before paths) (fails : Fails files argument failure) (store : Store) :
    openDocuments files store (before ++ argument :: after) = .error failure := by
  induction opened generalizing store with
  | nil => simp only [List.nil_append, openDocuments, openDocument_of_fails fails, bind, pure]
  | cons here later induction =>
      rcases here with ⟨text, opens⟩
      simp only [List.cons_append, openDocuments, openDocument_of_opens opens, bind]
      exact induction _

/-! ## What is printed -/

/-- A line of the listing. -/
def listedLine (name version : String) : String := name ++ " (version " ++ version ++ ")\n"

/-- The version that an extra file is listed with. -/
def extraVersion (payload : Payload) (libs : LibRegistry) (paths : List String) (name : String)
    (lib : ExtraLib) : String :=
  if name ∈ paths.map documentUri ∨
      defaultFile payload.compilerOptions.target libs payload.extraLibs = name then "1"
  else toString lib.version.toNat

/-- The listing of the documents at some paths and of the extra files of a payload. -/
def listing (payload : Payload) (libs : LibRegistry) (paths : List String) : String :=
  String.join (
    paths.eraseDups.map (fun path => listedLine (documentUri path) "1") ++
    payload.extraLibs.entries.map fun (name, lib) =>
      listedLine name (extraVersion payload libs paths name lib))

theorem listedLine_documentUri_injective :
    Function.Injective fun path => listedLine (documentUri path) "1" := by
  intro first second same
  simp only [listedLine, String.append_left_inj] at same
  exact documentUri_injective same

section Printed

variable {payload : Payload} {libs : LibRegistry} {paths : List String}
  (shows : ShowsPaths files paths store)
include shows

theorem ShowsPaths.isOpen_iff {name : String} :
    (hostOf payload libs store).IsOpen name ↔ name ∈ paths.map documentUri := by
  have isOpen : (hostOf payload libs store).IsOpen name ↔ (store.get? name).isSome := .rfl
  rw [isOpen, Store.isSome_get?_iff, shows.keys, List.mem_map, List.mem_map]
  simp only [List.mem_eraseDups]

theorem ShowsPaths.scriptFileNames :
    (hostOf payload libs store).scriptFileNames =
      paths.eraseDups.map documentUri ++ payload.extraLibs.keys := by
  rw [← shows.keys, ← Store.map_uri_models]
  rfl

theorem ShowsPaths.scriptVersion_document (listed : path ∈ paths) :
    (hostOf payload libs store).scriptVersion (documentUri path) = "1" := by
  rcases shows.get? path listed with ⟨text, _, found⟩
  have shown : (hostOf payload libs store).directory.model? (documentUri path) = _ := found
  have firstVersion : toString (1 : Int32).toInt = "1" := by decide
  exact (Host.scriptVersion_of_open shown).trans firstVersion

theorem ShowsPaths.scriptVersion_extra {name : String} {lib : ExtraLib}
    (listed : (name, lib) ∈ payload.extraLibs.entries) :
    (hostOf payload libs store).scriptVersion name = extraVersion payload libs paths name lib := by
  unfold extraVersion
  by_cases isOpen : name ∈ paths.map documentUri
  · rw [if_pos (.inl isOpen)]
    rcases List.mem_map.1 isOpen with ⟨path, occurs, rfl⟩
    exact shows.scriptVersion_document occurs
  · have notOpen : ¬ (hostOf payload libs store).IsOpen name := mt shows.isOpen_iff.1 isOpen
    by_cases isDefault : defaultFile payload.compilerOptions.target libs payload.extraLibs = name
    · rw [if_pos (.inr isDefault)]
      exact Host.scriptVersion_of_default notOpen isDefault
    · rw [if_neg (not_or.2 ⟨isOpen, isDefault⟩)]
      exact Host.scriptVersion_of_extra (OrderedMap.get?_of_mem_entries listed) notOpen isDefault

theorem ShowsPaths.print_files (documents : List String) :
    print (hostOf payload libs store) (.files documents) = .ok (listing payload libs paths) := by
  have lines : (hostOf payload libs store).scriptFileNames.map
      (fileLine (hostOf payload libs store)) =
        paths.eraseDups.map (fun path => listedLine (documentUri path) "1") ++
        payload.extraLibs.entries.map fun (name, lib) =>
          listedLine name (extraVersion payload libs paths name lib) := by
    rw [shows.scriptFileNames, List.map_append, OrderedMap.keys, List.map_map, List.map_map]
    refine congrArg₂ (· ++ ·) (List.map_congr_left ?_) (List.map_congr_left ?_)
    · intro path occurs
      exact congrArg (listedLine _) (shows.scriptVersion_document (List.mem_eraseDups.1 occurs))
    · rintro ⟨name, lib⟩ listed
      exact congrArg (listedLine name) (shows.scriptVersion_extra listed)
  rw [print, lines, listing]

theorem ShowsPaths.print_text (documents : List String) (listed : path ∈ paths)
    (readText : files.readText path = .ok text) :
    print (hostOf payload libs store) (.text (documentUri path) documents) = .ok text := by
  rcases shows.get? path listed with ⟨content, readContent, found⟩
  cases readText.symm.trans readContent
  have shown : (hostOf payload libs store).directory.model? (documentUri path) = _ := found
  simp only [print, Host.scriptText?_of_open shown]

end Printed

/-! ## Commands with documents -/

/-- What comes of an invocation that opens some documents. -/
structure Serves (files : FileSystem Id) (environment : Environment)
    (config libDir : Option String) (documents : List String) : Prop where
  /-- Without a payload nothing else matters. -/
  payload : ∀ cause, Payload.resolve files environment config = .error cause →
    ∀ action : Action, action.documents = documents →
      run files environment ⟨config, libDir, action⟩ = .error (.payload cause)
  /-- Without the built-in files the documents do not matter. -/
  libraries : ∀ payload cause, Payload.resolve files environment config = .ok payload →
    loadLibraries files libDir = .error cause →
    ∀ action : Action, action.documents = documents →
      run files environment ⟨config, libDir, action⟩ = .error cause
  /-- The first document that cannot be opened decides. -/
  failed : ∀ payload libs failure before argument after,
    Payload.resolve files environment config = .ok payload →
    loadLibraries files libDir = .ok libs →
    FailsAt files documents failure before argument after →
    ∀ action : Action, action.documents = documents →
      run files environment ⟨config, libDir, action⟩ = .error failure
  /-- Documents that can all be opened are listed. -/
  listed : ∀ payload libs paths, Payload.resolve files environment config = .ok payload →
    loadLibraries files libDir = .ok libs → OpensAll files documents paths →
    run files environment ⟨config, libDir, .files documents⟩ = .ok (listing payload libs paths)
  /-- Their texts are printed by their URIs. -/
  printed : ∀ payload libs paths, Payload.resolve files environment config = .ok payload →
    loadLibraries files libDir = .ok libs → OpensAll files documents paths →
    ∀ path ∈ paths, ∀ text, files.readText path = .ok text →
      run files environment ⟨config, libDir, .text (documentUri path) documents⟩ = .ok text
  /-- One of the two is always the case. -/
  opensAll_or_failsAt : (∃ paths, OpensAll files documents paths) ∨
    ∃ failure before argument after, FailsAt files documents failure before argument after

theorem serves (files : FileSystem Id) (environment : Environment)
    (config libDir : Option String) (documents : List String) :
    Serves files environment config libDir documents where
  payload cause refused action _ := run_of_no_payload refused
  libraries payload cause resolved refused action _ := run_of_no_libraries resolved refused
  failed := by
    intro payload libs failure before argument after resolved found failsAt action opening
    rcases failsAt.opened with ⟨paths, opened⟩
    apply run_of_no_documents resolved found
    rw [opening, failsAt.split]
    exact openDocuments_of_fails opened failsAt.fails .empty
  listed := by
    intro payload libs paths resolved found opened
    rcases (showsPaths_empty files).openDocuments opened with ⟨store, loaded, shows⟩
    exact (run_of_loaded resolved found loaded).trans (shows.print_files documents)
  printed := by
    intro payload libs paths resolved found opened path listed text readText
    rcases (showsPaths_empty files).openDocuments opened with ⟨store, loaded, shows⟩
    exact (run_of_loaded resolved found loaded).trans (shows.print_text documents listed readText)
  opensAll_or_failsAt := opensAll_or_failsAt files documents

/-- With documents to open, the first stage that fails decides what goes wrong, and among the
documents the first that fails. When none does, they are listed by their canonical paths, each
path once and in a line of its own, and the text of each can be printed. No two paths have
the same URI, even if they differ in bytes that make no text, and so none the same line. -/
theorem run_documents (files : FileSystem Id) (environment : Environment)
    (config libDir : Option String) (documents : List String) :
    Serves files environment config libDir documents ∧
    (∀ action : Action, action.documents = documents →
      ((∃ arguments, parse arguments = .run ⟨config, libDir, action⟩) ↔
        (Invocation.mk config libDir action).Proper)) ∧
    (∀ path, documentUri path =
      "file://" ++ String.ofList (Text.percentBytes (Text.bytesOf path))) ∧
    Function.Injective Text.percentBytes ∧
    (Function.Injective fun path => listedLine (documentUri path) "1") ∧
    ∀ path, '\n' ∉ (documentUri path).toList :=
  ⟨serves files environment config libDir documents, fun _ _ => exists_parse_iff,
    fun path => congrArg ("file://" ++ ·) (Text.percentEncoded_eq path),
    Text.percentBytes_injective, listedLine_documentUri_injective, newline_not_mem_documentUri⟩

/-- Three extra files: one that is open as well, the default one, and one that is neither. -/
def threeExtra : Payload :=
  { Payload.empty with
    extraLibs := .ofList [("file:///a.ts", { content := "", version := 7 }),
      ("lib.es6.d.ts", { content := "", version := 5 }), ("z", { content := "", version := 3 })] }

def threeExtraText : String :=
  "\x7b\"extraLibs\":\x7b\"file:///a.ts\":[\"\",7],\"lib.es6.d.ts\":[\"\",5],\"z\":[\"\",3]\x7d\x7d"

theorem ofJsonText_threeExtraText : Payload.ofJsonText threeExtraText = .ok threeExtra := by
  cbv

/-- Two files, one of which can be had by a link as well, and a payload. -/
def linkedTree : FileTree :=
  .folder [("a.ts", .file "one".toUTF8), ("b c", .file "two".toUTF8), ("l.ts", .link "./a.ts"),
    ("w.json", .file threeExtraText.toUTF8)]

theorem walk_linkedTree :
    let walk := linkedTree.walk FileTree.linkLimit []
    walk [".", "a.ts"] = .ok ["a.ts"] ∧ walk ["l.ts"] = .ok ["a.ts"] ∧
      walk [".", "b c"] = .ok ["b c"] ∧ walk ["b c"] = .ok ["b c"] ∧
      walk ["w.json"] = .ok ["w.json"] ∧ walk ["n.ts"] = .error .notFound := by
  have sizes : "a.ts".utf8ByteSize ≤ 255 ∧ "b c".utf8ByteSize ≤ 255 ∧
      "l.ts".utf8ByteSize ≤ 255 ∧ "w.json".utf8ByteSize ≤ 255 ∧ "n.ts".utf8ByteSize ≤ 255 := by
    decide +kernel
  have link : FileTree.steps ['.', '/', 'a', '.', 't', 's'] = [".", "a.ts"] := by decide +kernel
  simp [FileTree.walk, FileTree.at?, linkedTree, List.lookup, FileTree.linkLimit,
    FileTree.nameLimit, Nat.not_lt.2, sizes, link]

theorem locate_linkedTree :
    linkedTree.locate "/a.ts" = .ok ["a.ts"] ∧ linkedTree.locate "./a.ts" = .ok ["a.ts"] ∧
      linkedTree.locate "l.ts" = .ok ["a.ts"] ∧ linkedTree.locate "/b c" = .ok ["b c"] ∧
      linkedTree.locate "b c" = .ok ["b c"] ∧ linkedTree.locate "w.json" = .ok ["w.json"] ∧
      linkedTree.locate "n.ts" = .error .notFound := by
  rcases walk_linkedTree with ⟨walkA, walkL, walkRootB, walkB, walkW, walkN⟩
  exact ⟨FileTree.locate_of_walk (by decide +kernel) (by decide +kernel) walkA,
    FileTree.locate_of_walk (by decide +kernel) (by decide +kernel) walkA,
    FileTree.locate_of_walk (by decide +kernel) (by decide +kernel) walkL,
    FileTree.locate_of_walk (by decide +kernel) (by decide +kernel) walkRootB,
    FileTree.locate_of_walk (by decide +kernel) (by decide +kernel) walkB,
    FileTree.locate_of_walk (by decide +kernel) (by decide +kernel) walkW,
    FileTree.locate_of_walk (by decide +kernel) (by decide +kernel) walkN⟩

theorem opens_linkedTree :
    Opens linkedTree.fileSystem "./a.ts" "/a.ts" "one" ∧
      Opens linkedTree.fileSystem "l.ts" "/a.ts" "one" ∧
      Opens linkedTree.fileSystem "b c" "/b c" "two" := by
  rcases locate_linkedTree with ⟨rootA, dotA, link, rootB, plainB, _⟩
  have readA := FileSystem.readText_of_read (FileTree.read_of_locate rootA rfl)
  have readB := FileSystem.readText_of_read (FileTree.read_of_locate rootB rfl)
  exact ⟨⟨FileTree.canonical_of_locate dotA, readA⟩, ⟨FileTree.canonical_of_locate link, readA⟩,
    ⟨FileTree.canonical_of_locate plainB, readB⟩⟩

theorem opensAll_linkedTree :
    OpensAll linkedTree.fileSystem ["./a.ts", "b c", "l.ts"] ["/a.ts", "/b c", "/a.ts"] := by
  rcases opens_linkedTree with ⟨opensA, opensL, opensB⟩
  exact .cons ⟨"one", opensA⟩ (.cons ⟨"two", opensB⟩ (.cons ⟨"one", opensL⟩ .nil))

theorem failsAt_linkedTree :
    FailsAt linkedTree.fileSystem ["./a.ts", "n.ts", "m.ts"] (.openDocument "n.ts" .notFound)
      ["./a.ts"] "n.ts" ["m.ts"] := by
  rcases locate_linkedTree with ⟨_, _, _, _, _, _, missing⟩
  exact ⟨rfl, ⟨["/a.ts"], .cons ⟨"one", opens_linkedTree.1⟩ .nil⟩,
    .canonical (FileTree.canonical_of_locate missing)⟩

theorem resolve_linkedTree :
    Payload.resolve linkedTree.fileSystem ⟨none, none⟩ (some "w.json") = .ok threeExtra := by
  rcases locate_linkedTree with ⟨_, _, _, _, _, located, _⟩
  exact Payload.load_of_json (by decide +kernel) (FileTree.read_of_locate located rfl)
    ofJsonText_threeExtraText

theorem resolve_linkedTree_missing :
    Payload.resolve linkedTree.fileSystem ⟨none, none⟩ (some "n.ts") =
      .error (.unreadable "n.ts" .notFound) := by
  rcases locate_linkedTree with ⟨_, _, _, _, _, _, missing⟩
  simp only [Payload.resolve, Payload.load, FileSystem.readText, FileSystem.textOf, bind, pure,
    (FileTree.refused_of_locate missing).1]

theorem loadLibraries_linkedTree_missing :
    loadLibraries linkedTree.fileSystem (some "n.ts") = .error (.libraries "n.ts" .notFound) := by
  rcases locate_linkedTree with ⟨_, _, _, _, _, _, missing⟩
  simp only [loadLibraries, LibRegistry.ofFolder, bind, pure,
    (FileTree.refused_of_locate missing).2]

theorem run_documents_linked :
    let files := linkedTree.fileSystem
    let asked (config libDir : Option String) (action : Action) :=
      run files ⟨none, none⟩ ⟨config, libDir, action⟩
    asked (some "w.json") none (.files ["./a.ts", "b c", "l.ts"]) = .ok (
        "file:///a.ts (version 1)\nfile:///b%20c (version 1)\n" ++
          "file:///a.ts (version 1)\nlib.es6.d.ts (version 1)\nz (version 3)\n") ∧
      asked (some "w.json") none (.text "file:///b%20c" ["./a.ts", "b c", "l.ts"]) = .ok "two" ∧
      asked (some "w.json") none (.files ["./a.ts", "n.ts", "m.ts"]) =
        .error (.openDocument "n.ts" .notFound) ∧
      asked (some "w.json") (some "n.ts") (.files ["n.ts"]) =
        .error (.libraries "n.ts" .notFound) ∧
      asked (some "n.ts") (some "n.ts") (.files ["n.ts"]) =
        .error (.payload (.unreadable "n.ts" .notFound)) := by
  intro files asked
  have serves (config libDir : Option String) (documents : List String) :=
    (run_documents files ⟨none, none⟩ config libDir documents).1
  have found : loadLibraries files none = .ok .empty := rfl
  have listed : listing threeExtra .empty ["/a.ts", "/b c", "/a.ts"] =
      "file:///a.ts (version 1)\nfile:///b%20c (version 1)\n" ++
        "file:///a.ts (version 1)\nlib.es6.d.ts (version 1)\nz (version 3)\n" := by
    decide +kernel
  refine ⟨?_, ?_, ?_, ?_, ?_⟩
  · have told := (serves (some "w.json") none _).listed _ _ _ resolve_linkedTree found
      opensAll_linkedTree
    rw [listed] at told
    exact told
  · exact (serves (some "w.json") none _).printed _ _ _ resolve_linkedTree found
      opensAll_linkedTree "/b c" (by decide) "two" opens_linkedTree.2.2.readText
  · exact (serves (some "w.json") none _).failed _ _ _ _ _ _ resolve_linkedTree found
      failsAt_linkedTree _ rfl
  · exact (serves (some "w.json") (some "n.ts") _).libraries _ _ resolve_linkedTree
      loadLibraries_linkedTree_missing _ rfl
  · exact (serves (some "n.ts") (some "n.ts") _).payload _ resolve_linkedTree_missing _ rfl

end LanguageWorker.CommandLine
