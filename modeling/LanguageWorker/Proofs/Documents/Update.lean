import LanguageWorker.Proofs.Documents.Run

namespace LanguageWorker

/-! Updates as a whole. An update gives a document a text and a version, and the two belong
together: whoever sees the version of before should see the text of before. This holds
up to the last version there is. There the text is written before counting fails, and
the main statement says that nothing else keeps an update from being all or nothing. -/

namespace Document

variable {document : Document}

theorem updated_of_last (last : document.version = Int32.maxValue) (text : String) :
    document.updated text = { document with text } := by
  have exhausted : Store.nextVersion? document.version = none := if_pos last
  rw [updated, exhausted]
  rfl

theorem updateOutcome_of_last (last : document.version = Int32.maxValue) :
    document.updateOutcome = .versionsExhausted := by
  have exhausted : Store.nextVersion? document.version = none := if_pos last
  rw [updateOutcome, exhausted]

end Document

namespace Store

/-- What an update may leave behind: nothing new where no document is open, text and
version both replaced, or neither of them. -/
inductive AllOrNothing (store : Store) (uri text : String) : Store → UpdateOutcome → Prop
  | notOpen {after : Store} (closed : store.get? uri = none) (kept : after = store) :
      AllOrNothing store uri text after .notOpen
  | updated {after : Store} {document : Document} {version : Int32}
      (found : store.get? uri = some document)
      (counted : version.toInt = document.version.toInt + 1)
      (replaced : after.get? uri = some { document with text, version }) :
      AllOrNothing store uri text after (.updated version)
  | versionsExhausted {after : Store} (kept : after.get? uri = store.get? uri) :
      AllOrNothing store uri text after .versionsExhausted

variable {store : Store} {uri : String} {document : Document}

theorem updateDocument_snd_of_get? (found : store.get? uri = some document) (text : String) :
    (store.updateDocument uri text).2 = document.updateOutcome := by
  rw [updateDocument_snd, found]
  rfl

theorem get?_updateDocument_self (found : store.get? uri = some document) (text : String) :
    (store.updateDocument uri text).1.get? uri = some (document.updated text) := by
  rw [get?_updateDocument, if_pos rfl, found]
  rfl

theorem allOrNothing_of_closed (closed : store.get? uri = none) (text : String) :
    AllOrNothing store uri text (store.updateDocument uri text).1
      (store.updateDocument uri text).2 := by
  rw [updateDocument_of_closed closed]
  exact .notOpen closed rfl

theorem allOrNothing_of_ne (found : store.get? uri = some document)
    (notLast : document.version ≠ Int32.maxValue) (text : String) :
    AllOrNothing store uri text (store.updateDocument uri text).1
      (store.updateDocument uri text).2 := by
  have counted := Document.toInt_version_updated notLast text
  rw [updateDocument_snd_of_get? found, Document.updateOutcome_of_ne notLast text]
  exact .updated found counted (get?_updateDocument_self found text)

/-- The text is there already when the version turns out to be the last one. -/
theorem updateDocument_of_last (found : store.get? uri = some document)
    (last : document.version = Int32.maxValue) (text : String) :
    (store.updateDocument uri text).2 = .versionsExhausted ∧
      (store.updateDocument uri text).1.get? uri = some { document with text } := by
  constructor
  · rw [updateDocument_snd_of_get? found, Document.updateOutcome_of_last last]
  · rw [get?_updateDocument_self found, Document.updated_of_last last]

/-- Only the last version keeps an update from counting it up. -/
theorem updateDocument_eq_versionsExhausted_iff {text : String} :
    (store.updateDocument uri text).2 = .versionsExhausted ↔
      ∃ document, store.get? uri = some document ∧ document.version = Int32.maxValue := by
  cases found : store.get? uri with
  | none =>
      rw [updateDocument_of_closed found]
      exact iff_of_false nofun nofun
  | some document =>
      rw [updateDocument_snd_of_get? found]
      by_cases last : document.version = Int32.maxValue
      · exact iff_of_true (Document.updateOutcome_of_last last) ⟨document, rfl, last⟩
      · rw [Document.updateOutcome_of_ne last text]
        apply iff_of_false nofun
        intro described
        rcases described with ⟨_, same, otherLast⟩
        cases same
        exact last otherLast

theorem allOrNothing_of_last_iff (found : store.get? uri = some document)
    (last : document.version = Int32.maxValue) (text : String) :
    AllOrNothing store uri text (store.updateDocument uri text).1
      (store.updateDocument uri text).2 ↔ document.text = text := by
  rcases updateDocument_of_last found last text with ⟨outcome, shown⟩
  rw [outcome]
  constructor
  · intro whole
    cases whole with
    | versionsExhausted kept =>
        rw [shown, found] at kept
        exact (congrArg Document.text (Option.some.inj kept)).symm
  · intro same
    apply AllOrNothing.versionsExhausted
    rw [shown, found, ← same]

/-- An update is all or nothing except where it brings another text to a document of the
last version. There it replaces the text, keeps the version and comes back without one.
No update touches another document or the order of the listing. -/
theorem updateDocument_allOrNothing_iff (store : Store) (uri text : String) :
    (AllOrNothing store uri text (store.updateDocument uri text).1
        (store.updateDocument uri text).2 ↔
      ∀ document, store.get? uri = some document →
        document.version = Int32.maxValue → document.text = text) ∧
    (∀ document, store.get? uri = some document → document.version = Int32.maxValue →
      (store.updateDocument uri text).2 = .versionsExhausted ∧
      (store.updateDocument uri text).1.get? uri = some { document with text }) ∧
    (∀ other, other ≠ uri →
      (store.updateDocument uri text).1.get? other = store.get? other) ∧
    (store.updateDocument uri text).1.listing = store.listing := by
  refine ⟨?_, ?_, ?_, listing_updateDocument store uri text⟩
  · cases found : store.get? uri with
    | none =>
        have whole := allOrNothing_of_closed found text
        exact iff_of_true whole nofun
    | some document =>
        by_cases last : document.version = Int32.maxValue
        · rw [allOrNothing_of_last_iff found last]
          constructor
          · intro same other equal _
            exact Option.some.inj equal ▸ same
          · intro same
            exact same document rfl last
        · have whole := allOrNothing_of_ne found last text
          apply iff_of_true whole
          intro other equal otherLast
          exact absurd (Option.some.inj equal ▸ otherLast) last
  · intro document found last
    exact updateDocument_of_last found last text
  · intro other different
    rw [get?_updateDocument, if_neg different]

/-- A document opened at the last version. -/
def lastVersion : List Operation :=
  [.openDocument "file:///a.ts" "old" 2147483647]

/-- A store that opening has led to may be left with a new text under the old version. -/
theorem updateDocument_torn :
    ¬ ∀ (operations : List Operation) (uri text : String),
      let store := (empty.performAll operations).1
      AllOrNothing store uri text (store.updateDocument uri text).1
        (store.updateDocument uri text).2 := by
  intro whole
  have found : (empty.performAll lastVersion).1.get? "file:///a.ts" =
      some ⟨"file:///a.ts", 2147483647, "old"⟩ := by decide
  have same := (allOrNothing_of_last_iff found (by decide) "new").1
    (whole lastVersion "file:///a.ts" "new")
  exact absurd same (by decide)

end Store

end LanguageWorker
