import LanguageWorker.Proofs.Host.Footprint
import LanguageWorker.Proofs.Worker.Outcome

namespace LanguageWorker

/-! Asking a worker for its extra declaration files and sending the answer back. Every file
comes back as it was, but in the order of the names, which is seen where files are listed.
The main statement says for every worker what the exchange keeps, and that the listing is
kept just where the names were in order before. -/

namespace Host

section SameLookUps

variable {host : Host} {replacement : ExtraLibs}
  (same : ∀ name, replacement.get? name = host.extraLibs.get? name)
include same

theorem hasLib_withExtraLibs : (host.withExtraLibs replacement).hasLib = host.hasLib := by
  funext name
  have contained : replacement.contains name = host.extraLibs.contains name := by
    rw [Bool.eq_iff_iff, OrderedMap.contains_iff_get?, OrderedMap.contains_iff_get?, same]
  exact congrArg (host.libs.contains name || ·) contained

theorem defaultLibFileName_withExtraLibs :
    (host.withExtraLibs replacement).defaultLibFileName = host.defaultLibFileName := by
  funext options
  exact congrArg (DefaultLib.name options.target) (hasLib_withExtraLibs same)

theorem isDefaultLibFileName_withExtraLibs :
    (host.withExtraLibs replacement).isDefaultLibFileName = host.isDefaultLibFileName := by
  funext name
  simp only [isDefaultLibFileName, defaultLibFileName_withExtraLibs same]
  rfl

theorem scriptText?_withExtraLibs :
    (host.withExtraLibs replacement).scriptText? = host.scriptText? := by
  funext name
  by_contra changed
  have other := (scriptText?_withExtraLibs_ne_iff.1 changed).2.2
  exact other (congrArg (Option.map ExtraLib.content) (same name))

theorem scriptVersion_withExtraLibs :
    (host.withExtraLibs replacement).scriptVersion = host.scriptVersion := by
  funext name
  simp only [scriptVersion, isDefaultLibFileName_withExtraLibs same]
  simp only [withExtraLibs, same]

/-- Only the listing can tell two maps of extra files with the same look-ups. -/
theorem view_withExtraLibs :
    (host.withExtraLibs replacement).view = { host.view with
      scriptFileNames := host.directory.models.map Document.uri ++ replacement.keys } := by
  have snapshot : (host.withExtraLibs replacement).scriptSnapshot? = host.scriptSnapshot? := by
    funext name
    simp only [scriptSnapshot?, scriptText?_withExtraLibs same]
  have fileText : (host.withExtraLibs replacement).fileText = host.fileText := by
    funext name
    simp only [Host.fileText, scriptText?_withExtraLibs same]
  have fileExists : (host.withExtraLibs replacement).fileExists = host.fileExists := by
    funext name
    simp only [Host.fileExists, scriptText?_withExtraLibs same]
  rw [view, scriptVersion_withExtraLibs same, snapshot, defaultLibFileName_withExtraLibs same,
    isDefaultLibFileName_withExtraLibs same, fileText, fileExists]
  rfl

end SameLookUps

end Host

namespace Worker

theorem dispatch_getExtraLibs (worker : Worker) (store : Store) (given : Json) :
    worker.dispatch store "getExtraLibs" given =
      (worker, .ok (ExtraLibs.toJson worker.extraLibs)) :=
  dispatch_of_decoded .extraLibs rfl

/-- The answer to the request for the extra declaration files can be sent back. Afterwards
the same files are there in the order of their names, so that nothing but the
listing of files changes, and this one only if the names were not in order. -/
theorem extraLibs_readBack (worker : Worker) (store : Store) (given : Json) :
    let written := worker.extraLibs.sorted
    (∃ item, worker.dispatch store "getExtraLibs" given = (worker, .ok item) ∧
      worker.dispatch store "updateExtraLibs" (.array [item]) =
        (worker.updateExtraLibs written, .ok .null)) ∧
    written.keys.Perm worker.extraLibs.keys ∧ written.keys.Pairwise (· < ·) ∧
    (∀ name, written.get? name = worker.extraLibs.get? name) ∧
    ∀ moment : Store,
      let before := worker.host moment
      let after := (worker.updateExtraLibs written).host moment
      (∀ name, after.scriptText? name = before.scriptText? name) ∧
      after.view = { before.view with
        scriptFileNames := before.directory.models.map Document.uri ++ written.keys } ∧
      (after.scriptFileNames = before.scriptFileNames ↔
        worker.extraLibs.keys.Pairwise (· < ·)) := by
  intro written
  refine ⟨⟨_, dispatch_getExtraLibs worker store given, ?_⟩, worker.extraLibs.keys_sorted_perm,
    worker.extraLibs.keys_sorted_pairwise, worker.extraLibs.get?_sorted, ?_⟩
  · exact dispatch_updateExtraLibs_of_form worker store (ExtraLibs.form_toJson worker.extraLibs)
  · intro moment before after
    have same : ∀ name, written.get? name = before.extraLibs.get? name :=
      worker.extraLibs.get?_sorted
    refine ⟨?_, Host.view_withExtraLibs same, ?_⟩
    · exact congrFun (Host.scriptText?_withExtraLibs same)
    · exact (List.append_right_inj _).trans OrderedMap.keys_sorted_eq_iff

/-- A worker whose two extra files were registered against the order of their names. -/
def ofReversedNames : Worker where
  documents := Store.directory
  engine := markerEngine
  libs := .empty
  settings := .empty
  extraLibs := .ofList [("z.d.ts", { content := "declare const z: 1;", version := 1 }),
    ("a.d.ts", { content := "declare const a: 1;", version := 3 })]
  inlayHintsOptions := .empty

/-- It does not hold of every worker that the files are listed as before. -/
theorem extraLibs_readBack_reordered :
    ¬ ∀ (worker : Worker) (store : Store) (given item : Json) (after : Worker),
      worker.dispatch store "getExtraLibs" given = (worker, .ok item) →
      worker.dispatch store "updateExtraLibs" (.array [item]) = (after, .ok .null) →
      (after.host store).scriptFileNames = (worker.host store).scriptFileNames := by
  intro kept
  have listed := kept ofReversedNames .empty .null _ _ rfl rfl
  revert listed
  decide +kernel

end Worker

end LanguageWorker
