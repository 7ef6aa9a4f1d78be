import LanguageWorker.Proofs.Documents.Run
import LanguageWorker.Proofs.Host.Sources
import LanguageWorker.Service.MarkerEngine
import LanguageWorker.Worker

namespace LanguageWorker

/-! How far changes reach. An operation on documents is felt under its own URI only, and
never by the choice of the default declaration file. A replacement of the extra
declaration files reaches further than the names it holds, because it may move that
choice. The main statement says for one file which changes can be felt there. -/

namespace Host

/-- Everything that two hosts can be asked about one file is answered alike. -/
structure Alike (first second : Host) (name : String) : Prop where
  text : first.scriptText? name = second.scriptText? name
  snapshot : first.scriptSnapshot? name = second.scriptSnapshot? name
  fileText : first.fileText name = second.fileText name
  fileExists : first.fileExists name = second.fileExists name
  version : first.scriptVersion name = second.scriptVersion name

variable {host : Host} {name : String}

/-! ## Other documents -/

/-- Of the documents, a file asks only for the one of its own name. -/
theorem alike_of_model? {directory : Directory}
    (same : directory.model? name = host.directory.model? name) :
    Alike { host with directory } host name := by
  have text : ({ host with directory } : Host).scriptText? name = host.scriptText? name := by
    simp only [scriptText?, builtInText?, same]
  have version : ({ host with directory } : Host).scriptVersion name =
      host.scriptVersion name := by
    simp only [scriptVersion, same]
    rfl
  constructor
  · exact text
  · exact congrArg (Option.map Snapshot.mk) text
  · exact congrArg (Option.getD · "") text
  · exact congrArg Option.isSome text
  · exact version

/-! ## Other extra files -/

/-- The same files with other extra ones. -/
def withExtraLibs (host : Host) (extraLibs : ExtraLibs) : Host := { host with extraLibs }

variable {replacement : ExtraLibs}

theorem isOpen_withExtraLibs : (host.withExtraLibs replacement).IsOpen name ↔ host.IsOpen name :=
  Iff.rfl

theorem isBuiltIn_withExtraLibs :
    (host.withExtraLibs replacement).IsBuiltIn name ↔ host.IsBuiltIn name :=
  Iff.rfl

/-- Another text shows exactly where nothing stands before the extra files and their
contents differ. -/
theorem scriptText?_withExtraLibs_ne_iff :
    (host.withExtraLibs replacement).scriptText? name ≠ host.scriptText? name ↔
      ¬ host.IsOpen name ∧ ¬ host.IsBuiltIn name ∧
        (replacement.get? name).map ExtraLib.content ≠
          (host.extraLibs.get? name).map ExtraLib.content := by
  by_cases isOpen : host.IsOpen name
  · rcases Option.isSome_iff_exists.1 isOpen with ⟨document, found⟩
    have after : (host.withExtraLibs replacement).scriptText? name = some document.text :=
      scriptText?_of_open found
    rw [after, scriptText?_of_open found]
    exact iff_of_false (fun changed => changed rfl) fun described => described.1 isOpen
  · by_cases isBuiltIn : host.IsBuiltIn name
    · rcases isBuiltIn_iff.1 isBuiltIn with ⟨text, found⟩
      have after : (host.withExtraLibs replacement).scriptText? name = some text :=
        scriptText?_of_builtIn (isOpen_withExtraLibs.not.2 isOpen) found
      rw [after, scriptText?_of_builtIn isOpen found]
      exact iff_of_false (fun changed => changed rfl) fun described => described.2.1 isBuiltIn
    · rw [scriptText?_of_not_builtIn (isOpen_withExtraLibs.not.2 isOpen)
          (isBuiltIn_withExtraLibs.not.2 isBuiltIn),
        scriptText?_of_not_builtIn isOpen isBuiltIn]
      simp only [isOpen, isBuiltIn, not_false_eq_true, true_and]
      rfl

theorem scriptVersion_withExtraLibs_of_open (isOpen : host.IsOpen name) :
    (host.withExtraLibs replacement).scriptVersion name = host.scriptVersion name := by
  rcases Option.isSome_iff_exists.1 isOpen with ⟨document, found⟩
  have after : (host.withExtraLibs replacement).scriptVersion name =
      toString document.version.toInt := scriptVersion_of_open found
  rw [after, scriptVersion_of_open found]

/-- Where the version changes, the file is not open, and it is an extra file or the default
one on at least one side. -/
theorem of_scriptVersion_withExtraLibs_ne
    (changed : (host.withExtraLibs replacement).scriptVersion name ≠ host.scriptVersion name) :
    ¬ host.IsOpen name ∧
      (host.IsExtra name ∨ (host.withExtraLibs replacement).IsExtra name ∨
        host.IsDefault name ∨ (host.withExtraLibs replacement).IsDefault name) := by
  have notOpen : ¬ host.IsOpen name := fun isOpen =>
    changed (scriptVersion_withExtraLibs_of_open isOpen)
  refine ⟨notOpen, ?_⟩
  by_contra absent
  simp only [not_or] at absent
  rcases absent with ⟨notExtra, notExtraAfter, notDefault, notDefaultAfter⟩
  have before : host.scriptVersion name = "" :=
    scriptVersion_eq_empty_iff.2 ⟨notOpen, notDefault, notExtra⟩
  have after : (host.withExtraLibs replacement).scriptVersion name = "" :=
    scriptVersion_eq_empty_iff.2
      ⟨isOpen_withExtraLibs.not.2 notOpen, notDefaultAfter, notExtraAfter⟩
  exact changed (after.trans before.symm)

end Host

namespace Worker

theorem host_updateExtraLibs (worker : Worker) (store : Store) (replacement : ExtraLibs) :
    (worker.updateExtraLibs replacement).host store =
      (worker.host store).withExtraLibs replacement :=
  rfl

/-- What can be felt at one file of a worker: operations on its own document, and
replacements of the extra declaration files as far as these are not hidden there. -/
structure Footprint (worker : Worker) (store : Store) (name : String) : Prop where
  operation : ∀ operation : Store.Operation, operation.uri ≠ name →
    (worker.host (store.perform operation).1).Alike (worker.host store) name
  defaultLib : ∀ (operation : Store.Operation) (options : CompilerOptions),
    (worker.host (store.perform operation).1).defaultLibFileName options =
      (worker.host store).defaultLibFileName options
  text : ∀ replacement : ExtraLibs,
    ((worker.updateExtraLibs replacement).host store).scriptText? name ≠
        (worker.host store).scriptText? name ↔
      ¬ (worker.host store).IsOpen name ∧ ¬ (worker.host store).IsBuiltIn name ∧
        (replacement.get? name).map ExtraLib.content ≠
          (worker.extraLibs.get? name).map ExtraLib.content
  version : ∀ replacement : ExtraLibs,
    ((worker.updateExtraLibs replacement).host store).scriptVersion name ≠
        (worker.host store).scriptVersion name →
      ¬ (worker.host store).IsOpen name ∧
        (worker.extraLibs.contains name ∨ replacement.contains name ∨
          (worker.host store).IsDefault name ∨
          ((worker.updateExtraLibs replacement).host store).IsDefault name)

variable {worker : Worker}

theorem model?_of_directory (sees : worker.documents = Store.directory) (store : Store)
    (name : String) : (worker.documents store).model? name = store.get? name := by
  rw [sees]
  rfl

/-- The footprint of every change on every file of a worker that sees the editor's store. -/
theorem footprint_of_directory (worker : Worker) (store : Store) (name : String)
    (sees : worker.documents = Store.directory) : Footprint worker store name where
  operation operation different := by
    have same : (worker.documents (store.perform operation).1).model? name =
        (worker.documents store).model? name := by
      rw [model?_of_directory sees, model?_of_directory sees]
      exact store.get?_perform_of_ne different
    exact @Host.alike_of_model? (worker.host store) name _ same
  defaultLib operation options := rfl
  text replacement := by
    rw [host_updateExtraLibs]
    exact Host.scriptText?_withExtraLibs_ne_iff
  version replacement changed := by
    rw [host_updateExtraLibs] at changed ⊢
    exact Host.of_scriptVersion_withExtraLibs_ne changed

/-- A worker for the edition of 2017 without any declaration files. -/
def ofYear2017 : Worker where
  documents := Store.directory
  engine := markerEngine
  libs := .empty
  settings := { target := some ⟨4⟩, allowJs := none, other := .empty }
  extraLibs := .empty
  inlayHintsOptions := .empty

def full2017 : ExtraLibs :=
  .ofList [("lib.es2017.full.d.ts", { content := "", version := 1 })]

/-- A file that is in neither mapping loses its version, because it was the default one. -/
theorem footprint_2017 :
    ofYear2017.documents = Store.directory ∧
      (ofYear2017.host .empty).scriptVersion "lib.es6.d.ts" = "1" ∧
      ((ofYear2017.updateExtraLibs full2017).host .empty).scriptVersion "lib.es6.d.ts" = "" ∧
      Footprint ofYear2017 .empty "lib.es6.d.ts" :=
  ⟨rfl, by decide +kernel, by decide +kernel,
    footprint_of_directory ofYear2017 .empty "lib.es6.d.ts" rfl⟩

end Worker

end LanguageWorker
