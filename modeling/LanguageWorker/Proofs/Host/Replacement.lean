import LanguageWorker.Proofs.Host.Sources
import LanguageWorker.Service.MarkerEngine
import LanguageWorker.Worker
import Mathlib

namespace LanguageWorker

/-! Replacing the extra declaration files. An engine reads a file again when its version
is another one, so a file that gets a new text should get a new version with it. The
default declaration file has the fixed version even where it is an extra file, and the
main statement says exactly when a replacement goes unnoticed because of this. -/

theorem toString_toNat_inj {first second : UInt32} :
    toString first.toNat = toString second.toNat ↔ first = second :=
  Nat.repr_inj.trans UInt32.toNat_inj

namespace Host

variable {host : Host} {name : String} {lib : ExtraLib}

/-- The version that an extra file is shown under, where no document hides it. -/
theorem scriptVersion_of_held (notOpen : ¬ host.IsOpen name)
    (found : host.extraLibs.get? name = some lib) :
    host.scriptVersion name =
      toString (if host.IsDefault name then (1 : UInt32) else lib.version).toNat := by
  split
  · next isDefault => exact scriptVersion_of_default notOpen isDefault
  · next notDefault => exact scriptVersion_of_extra found notOpen notDefault

end Host

namespace Worker

/-- A replacement gives an extra file that is neither open nor built in its new text. With
it goes a new version, unless the file is the default one before and after, or is
the default one on one side and has the version one on the other. -/
theorem extraLib_replaced (worker : Worker) (store : Store) (name : String)
    (replacement : ExtraLibs) (old new : ExtraLib)
    (notOpen : ¬ (worker.host store).IsOpen name)
    (notBuiltIn : ¬ (worker.host store).IsBuiltIn name)
    (held : worker.extraLibs.get? name = some old)
    (replaced : replacement.get? name = some new)
    (otherContent : old.content ≠ new.content) (otherVersion : old.version ≠ new.version) :
    let before := worker.host store
    let after := (worker.updateExtraLibs replacement).host store
    after.scriptText? name ≠ before.scriptText? name ∧
      (after.scriptVersion name = before.scriptVersion name ↔
        (before.IsDefault name ∧ after.IsDefault name) ∨
          (before.IsDefault name ∧ new.version = 1) ∨
          (after.IsDefault name ∧ old.version = 1)) := by
  intro before after
  -- Neither the documents nor the built-in files take part in a replacement.
  have notOpenAfter : ¬ after.IsOpen name := notOpen
  have notBuiltInAfter : ¬ after.IsBuiltIn name := notBuiltIn
  constructor
  · rw [Host.scriptText?_of_extra held notOpen notBuiltIn,
      Host.scriptText?_of_extra replaced notOpenAfter notBuiltInAfter]
    exact fun same => otherContent (Option.some.inj same).symm
  · have shownBefore : before.scriptVersion name =
        toString (if before.IsDefault name then (1 : UInt32) else old.version).toNat :=
      Host.scriptVersion_of_held notOpen held
    have shownAfter : after.scriptVersion name =
        toString (if after.IsDefault name then (1 : UInt32) else new.version).toNat :=
      Host.scriptVersion_of_held notOpenAfter replaced
    rw [shownBefore, shownAfter, toString_toNat_inj]
    by_cases defaultBefore : before.IsDefault name <;>
      by_cases defaultAfter : after.IsDefault name
    · simp only [defaultBefore, defaultAfter, if_true, true_and, true_or]
    · simp only [defaultBefore, defaultAfter, if_true, if_false, true_and, false_and,
        and_false, false_or, or_false]
    · simp only [defaultBefore, defaultAfter, if_true, if_false, true_and, false_and,
        false_or, eq_comm]
    · simp only [defaultBefore, defaultAfter, if_false, false_and, or_false,
        otherVersion.symm]

/-- A worker for the edition of 2018, whose default file is an extra one. -/
def ofYear2018 : Worker where
  documents := Store.directory
  engine := markerEngine
  libs := .empty
  settings := { target := some ⟨5⟩, allowJs := none, other := .empty }
  extraLibs := .ofList [("lib.es2018.full.d.ts", { content := "old", version := 1 })]
  inlayHintsOptions := .empty

def newer2018 : ExtraLibs :=
  .ofList [("lib.es2018.full.d.ts", { content := "new", version := 2 })]

theorem extraLib_replaced_2018 :
    let before := ofYear2018.host .empty
    let after := (ofYear2018.updateExtraLibs newer2018).host .empty
    let name := "lib.es2018.full.d.ts"
    (¬ before.IsOpen name ∧ ¬ before.IsBuiltIn name) ∧
      after.scriptText? name ≠ before.scriptText? name ∧
      (after.scriptVersion name = before.scriptVersion name ↔
        (before.IsDefault name ∧ after.IsDefault name) ∨
          (before.IsDefault name ∧ (2 : UInt32) = 1) ∨
          (after.IsDefault name ∧ (1 : UInt32) = 1)) :=
  ⟨⟨by decide, by decide⟩,
    extraLib_replaced ofYear2018 .empty "lib.es2018.full.d.ts" newer2018
      { content := "old", version := 1 } { content := "new", version := 2 }
      (by decide) (by decide) (by decide) (by decide) (by decide) (by decide)⟩

/-- It does not hold of every extra file that a new text with a new version number is
shown under a new version. -/
theorem extraLib_replaced_unnoticed :
    ¬ ∀ (worker : Worker) (store : Store) (name : String) (replacement : ExtraLibs)
        (old new : ExtraLib),
      ¬ (worker.host store).IsOpen name → ¬ (worker.host store).IsBuiltIn name →
      worker.extraLibs.get? name = some old → replacement.get? name = some new →
      old.content ≠ new.content → old.version ≠ new.version →
      ((worker.updateExtraLibs replacement).host store).scriptText? name ≠
          (worker.host store).scriptText? name ∧
        ((worker.updateExtraLibs replacement).host store).scriptVersion name ≠
          (worker.host store).scriptVersion name := by
  intro noticed
  have changed := noticed ofYear2018 .empty "lib.es2018.full.d.ts" newer2018
    { content := "old", version := 1 } { content := "new", version := 2 }
    (by decide) (by decide) (by decide) (by decide) (by decide) (by decide)
  exact changed.2 (by decide +kernel)

end Worker

end LanguageWorker
