import LanguageWorker.Proofs.Host.Sources
import LanguageWorker.Proofs.Session.Run
import LanguageWorker.Service.MarkerEngine

namespace LanguageWorker

/-! The listing of all files. It is put together from the documents and the extra declaration
files, while a text and a version are looked up name by name, and by other ways. The main
statement says that they fit: in every state that a session may reach, whatever is listed
has a text and a version, and nothing that is open or an extra file is left out. -/

namespace Host

/-- The listing of some files whose documents are those of a store. -/
structure Lists (host : Host) (store : Store) : Prop where
  fileNames : host.scriptFileNames = store.models.map Document.uri ++ host.extraLibs.keys
  /-- Built-in files are not listed for being built in. -/
  listed_iff : ∀ name,
    name ∈ host.scriptFileNames ↔ (store.get? name).isSome ∨ host.extraLibs.contains name
  resolves : ∀ name ∈ host.scriptFileNames,
    host.fileExists name ∧ (host.scriptSnapshot? name).isSome ∧ host.scriptVersion name ≠ ""
  atMostTwice : ∀ name, host.scriptFileNames.count name ≤ 2
  twice_iff : ∀ name, host.scriptFileNames.count name = 2 ↔
    (store.get? name).isSome ∧ host.extraLibs.contains name
  /-- Where a name stands for two files, the document answers. -/
  document : ∀ name document, store.get? name = some document →
    host.scriptText? name = some document.text ∧
      host.scriptVersion name = toString document.version.toInt

variable {host : Host} {store : Store} {name : String}

/-- Being listed once or twice is a matter of the two sources alone, for each of them lists a
name only once. -/
theorem count_scriptFileNames (sees : host.directory = store.directory) (name : String) :
    host.scriptFileNames.count name =
      (if (store.get? name).isSome then 1 else 0) +
        if host.extraLibs.contains name then 1 else 0 := by
  have documents : (store.models.map Document.uri).count name =
      if (store.get? name).isSome then 1 else 0 := by
    rw [store.nodup_map_uri_models.count, Store.map_uri_models]
    simp only [Store.isSome_get?_iff]
  have extras : host.extraLibs.keys.count name =
      if host.extraLibs.contains name then 1 else 0 := by
    have once : host.extraLibs.keys.Nodup := host.extraLibs.distinct
    rw [once.count]
    simp only [OrderedMap.contains_iff]
  rw [scriptFileNames, sees, List.count_append, extras]
  exact congrArg (· + _) documents

theorem isOpen_iff_of_directory (sees : host.directory = store.directory) :
    host.IsOpen name ↔ (store.get? name).isSome := by
  rw [IsOpen, sees]
  rfl

theorem mem_scriptFileNames_iff (sees : host.directory = store.directory) :
    name ∈ host.scriptFileNames ↔ host.IsOpen name ∨ host.IsExtra name := by
  rw [isOpen_iff_of_directory sees, IsExtra, ← List.count_pos_iff, count_scriptFileNames sees]
  cases (store.get? name).isSome <;> cases host.extraLibs.contains name <;> decide

/-- What is open or an extra file is never without a text or a version. -/
theorem resolves_of_listed (listed : host.IsOpen name ∨ host.IsExtra name) :
    host.fileExists name ∧ (host.scriptSnapshot? name).isSome ∧ host.scriptVersion name ≠ "" := by
  have text : host.scriptText? name ≠ none := by
    rw [Ne, scriptText?_eq_none_iff]
    exact fun absent => listed.elim absent.1 absent.2.2
  have version : host.scriptVersion name ≠ "" := by
    rw [Ne, scriptVersion_eq_empty_iff]
    exact fun absent => listed.elim absent.1 absent.2.2
  refine ⟨?_, ?_, version⟩
  · exact Option.isSome_iff_ne_none.2 text
  · exact Option.isSome_iff_ne_none.2 (scriptSnapshot?_eq_none_iff.not.2 text)

theorem lists_of_directory (sees : host.directory = store.directory) : host.Lists store where
  fileNames := by
    rw [scriptFileNames, sees]
    rfl
  listed_iff name := by
    rw [mem_scriptFileNames_iff sees, isOpen_iff_of_directory sees, IsExtra]
  resolves name listed := resolves_of_listed ((mem_scriptFileNames_iff sees).1 listed)
  atMostTwice name := by
    rw [count_scriptFileNames sees]
    cases (store.get? name).isSome <;> cases host.extraLibs.contains name <;> decide
  twice_iff name := by
    rw [count_scriptFileNames sees]
    cases (store.get? name).isSome <;> cases host.extraLibs.contains name <;> decide
  document name document found := by
    have shown : host.directory.model? name = some document := sees ▸ found
    exact ⟨scriptText?_of_open shown, scriptVersion_of_open shown⟩

end Host

namespace Session

/-- After any run of a session that sees the editor's store, the documents in the order of the
directory and then the extra files in that of their registration are listed, each of them
with a text and a version. -/
theorem runWith_lists (session : Session) (sees : session.worker.documents = Store.directory)
    (steps : List (Engine × Step)) :
    (session.runWith steps).1.host.Lists (session.runWith steps).1.store := by
  have kept := (traced_runWith session steps).documents
  apply Host.lists_of_directory
  rw [host, Worker.host, kept, sees]

/-- A worker without documents and with an extra file that is built in as well. -/
def withBuiltIn : Session where
  store := .empty
  worker := {
    documents := Store.directory
    engine := markerEngine
    libs := .ofList [("lib.dom.d.ts", "interface Node {}"), ("g.d.ts", "built in")]
    settings := .empty
    extraLibs := .ofList [("g.d.ts", { content := "declare const g: 1;", version := 1 })]
    inlayHintsOptions := .empty }

/-- An extra file becomes a document too, and another document is closed again. -/
def hidingExtra : List Step :=
  [.openDocument "b.ts" "one" 1, .openDocument "z.d.ts" "two" 4,
    .updateExtraLibs (.ofList [("z.d.ts", { content := "extra", version := 9 }),
      ("a.d.ts", { content := "other", version := 2 })]),
    .updateDocument "z.d.ts" "three", .closeDocument "b.ts"]

theorem runWith_lists_hidden :
    let last := (withBuiltIn.runWith (hidingExtra.map fun step => (markerEngine, step))).1
    withBuiltIn.worker.documents = Store.directory ∧
      last.host.scriptFileNames = ["z.d.ts", "z.d.ts", "a.d.ts"] ∧
      last.host.scriptVersion "z.d.ts" = "5" ∧ last.host.Lists last.store := by
  intro last
  exact ⟨rfl, by decide +kernel, by decide +kernel, runWith_lists withBuiltIn rfl _⟩

end Session

end LanguageWorker
