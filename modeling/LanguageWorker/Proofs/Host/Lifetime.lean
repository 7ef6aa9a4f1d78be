import LanguageWorker.Proofs.Documents.Update
import LanguageWorker.Proofs.Host.Sources
import Mathlib

namespace LanguageWorker

/-! Versions over the lifetime of a document. An engine keeps what it has made of a file for
as long as the version of the file stays the same. An editor earns this trust when every
reopening brings a greater version and no update meets the last version. The main statement
says that it is then never deceived: two moments without a closing in between show the
same version exactly when nothing has been written, and so the same text with it. -/

theorem toString_toInt_inj {first second : Int32} :
    toString first.toInt = toString second.toInt ↔ first = second :=
  Int.repr_inj.trans Int32.toInt_inj

namespace Store

/-- Whether an operation counts the version of a document up, if it writes to one: an open
document is opened anew only at a greater version, and not updated at the last one. -/
def Rises (store : Store) : Operation → Prop
  | .openDocument uri _ version => ∀ document, store.get? uri = some document →
      document.version < version
  | .updateDocument uri text => ¬ store.Exhausts (.updateDocument uri text)
  | .closeDocument _ => True

/-- Every operation of a run rises where it is performed. -/
def Rising (store : Store) : List Operation → Prop
  | [] => True
  | operation :: rest => store.Rises operation ∧ (store.perform operation).1.Rising rest

/-- An operation that writes to the document of a URI: an update or a reopening. -/
def Operation.renews (uri : String) : Operation → Bool
  | .openDocument other _ _ => other == uri
  | .updateDocument other _ => other == uri
  | .closeDocument _ => false

end Store

/-- What a document may have become after it has been written a number of times. -/
structure Document.Renewed (times : Nat) (earlier later : Document) : Prop where
  counted : earlier.version.toInt + times ≤ later.version.toInt
  kept : times = 0 → later = earlier

namespace Document.Renewed

variable {earlier between later : Document} {first second : Nat}

theorem refl (document : Document) : Renewed 0 document document where
  counted := by simp
  kept _ := rfl

theorem trans (before : Renewed first earlier between) (after : Renewed second between later) :
    Renewed (first + second) earlier later where
  counted := by
    have one := before.counted
    have two := after.counted
    omega
  kept none := by
    have both := Nat.add_eq_zero_iff.1 none
    rw [after.kept both.2, before.kept both.1]

theorem version_le (renewed : Renewed first earlier later) : earlier.version ≤ later.version := by
  have counted := renewed.counted
  rw [Int32.le_iff_toInt_le]
  omega

theorem version_lt (renewed : Renewed first earlier later) (written : 0 < first) :
    earlier.version < later.version := by
  have counted := renewed.counted
  rw [Int32.lt_iff_toInt_lt]
  omega

theorem version_eq_iff (renewed : Renewed first earlier later) :
    earlier.version = later.version ↔ first = 0 := by
  constructor
  · intro same
    have counted := renewed.counted
    rw [same] at counted
    omega
  · intro none
    rw [renewed.kept none]

end Document.Renewed

namespace Store

variable {store : Store} {uri : String} {document : Document} {operation : Operation}

/-! ## A single operation -/

theorem renewed_openDocument {opened text : String} {version : Int32}
    (rises : store.Rises (.openDocument opened text version))
    (found : store.get? uri = some document) :
    ∃ later, (store.openDocument opened text version).get? uri = some later ∧
      document.Renewed (if opened = uri then 1 else 0) later := by
  rw [get?_openDocument]
  by_cases same : opened = uri
  · subst same
    have greater : document.version.toInt < version.toInt :=
      Int32.lt_iff_toInt_lt.1 (rises document found)
    rw [if_pos rfl, if_pos rfl]
    exact ⟨_, rfl, greater, nofun⟩
  · rw [if_neg (Ne.symm same), if_neg same]
    exact ⟨document, found, .refl document⟩

theorem renewed_updateDocument {updated text : String}
    (rises : store.Rises (.updateDocument updated text))
    (found : store.get? uri = some document) :
    ∃ later, (store.updateDocument updated text).1.get? uri = some later ∧
      document.Renewed (if updated = uri then 1 else 0) later := by
  by_cases same : updated = uri
  · subst same
    have notLast : document.version ≠ Int32.maxValue := by
      intro last
      apply rises
      rw [Exhausts, found, Option.map_some, last]
    rw [get?_updateDocument_self found, if_pos rfl]
    exact ⟨_, rfl, (Document.toInt_version_updated notLast text).ge, nofun⟩
  · rw [get?_updateDocument, if_neg (Ne.symm same), if_neg same]
    exact ⟨document, found, .refl document⟩

/-- An operation that rises and does not close a document keeps it open, and renews it if it
writes to it. -/
theorem renewed_perform (rises : store.Rises operation) (found : store.get? uri = some document)
    (kept : operation ≠ .closeDocument uri) :
    ∃ later, (store.perform operation).1.get? uri = some later ∧
      document.Renewed (if operation.renews uri then 1 else 0) later := by
  cases operation with
  | openDocument opened text version =>
      simp only [Operation.renews, beq_iff_eq]
      exact renewed_openDocument rises found
  | updateDocument updated text =>
      simp only [Operation.renews, beq_iff_eq]
      exact renewed_updateDocument rises found
  | closeDocument closed =>
      have different : uri ≠ closed := fun same => kept (same ▸ rfl)
      refine ⟨document, ?_, .refl document⟩
      rw [perform, get?_closeDocument, if_neg different, found]

/-! ## A run -/

/-- Over a run without closing, a document is renewed as often as it is written. -/
theorem renewed_performAll {operations : List Operation} (rising : store.Rising operations)
    (found : store.get? uri = some document) (kept : .closeDocument uri ∉ operations) :
    ∃ later, (store.performAll operations).1.get? uri = some later ∧
      document.Renewed (operations.countP (Operation.renews uri)) later := by
  induction operations generalizing store document with
  | nil => exact ⟨document, found, .refl document⟩
  | cons operation rest induction =>
      rw [List.mem_cons, not_or] at kept
      rcases renewed_perform rising.1 found (Ne.symm kept.1) with ⟨next, shown, renewed⟩
      rcases induction rising.2 shown kept.2 with ⟨later, shownLater, renewedLater⟩
      refine ⟨later, shownLater, ?_⟩
      rw [List.countP_cons, Nat.add_comm]
      exact renewed.trans renewedLater

end Store

namespace Host

variable {uri : String}

/-- What the files say about two moments of an open document between which some operations
have been performed. -/
structure Lifetime (first second : Host) (uri : String) (between : List Store.Operation)
    (earlier later : Document) : Prop where
  shown : first.scriptVersion uri = toString earlier.version.toInt ∧
    first.scriptSnapshot? uri = some ⟨earlier.text⟩
  shownLater : second.scriptVersion uri = toString later.version.toInt ∧
    second.scriptSnapshot? uri = some ⟨later.text⟩
  /-- The version shown stays the same exactly as long as nothing is written. -/
  version_eq_iff : first.scriptVersion uri = second.scriptVersion uri ↔
    ∀ operation ∈ between, ¬ operation.renews uri
  /-- Another text is never shown under the same version. -/
  noticed : first.scriptText? uri ≠ second.scriptText? uri →
    first.scriptVersion uri ≠ second.scriptVersion uri
  snapshot_eq : first.scriptVersion uri = second.scriptVersion uri →
    first.scriptSnapshot? uri = second.scriptSnapshot? uri

theorem lifetime_of_renewed {first second : Host} {between : List Store.Operation}
    {earlier later : Document} (shown : first.directory.model? uri = some earlier)
    (shownLater : second.directory.model? uri = some later)
    (renewed : earlier.Renewed (between.countP (Store.Operation.renews uri)) later) :
    first.Lifetime second uri between earlier later := by
  have version := scriptVersion_of_open shown
  have versionLater := scriptVersion_of_open shownLater
  have text := scriptText?_of_open shown
  have textLater := scriptText?_of_open shownLater
  have same_iff : first.scriptVersion uri = second.scriptVersion uri ↔
      between.countP (Store.Operation.renews uri) = 0 := by
    rw [version, versionLater, toString_toInt_inj, renewed.version_eq_iff]
  have same_text (same : first.scriptVersion uri = second.scriptVersion uri) :
      first.scriptText? uri = second.scriptText? uri := by
    rw [text, textLater, renewed.kept (same_iff.1 same)]
  exact {
    shown := ⟨version, congrArg (Option.map Snapshot.mk) text⟩
    shownLater := ⟨versionLater, congrArg (Option.map Snapshot.mk) textLater⟩
    version_eq_iff := same_iff.trans List.countP_eq_zero
    noticed := mt same_text
    snapshot_eq := fun same => congrArg (Option.map Snapshot.mk) (same_text same) }

end Host

namespace Store

/-- Whatever has led to a store in which a document is open, over every rising run that does
not close it the document stays open and its version never falls, and rises with every
update and reopening. Whatever the other files are at the two moments, they show another text
of the document only under another version. -/
theorem performAll_lifetime (store : Store) (uri : String) (earlier : Document)
    (between : List Operation) (found : store.get? uri = some earlier)
    (rising : store.Rising between) (kept : .closeDocument uri ∉ between) :
    ∃ later, (store.performAll between).1.get? uri = some later ∧
      earlier.version ≤ later.version ∧
      ((∃ operation ∈ between, operation.renews uri) → earlier.version < later.version) ∧
      ∀ first second : Host, first.directory = store.directory →
        second.directory = (store.performAll between).1.directory →
        first.Lifetime second uri between earlier later := by
  rcases renewed_performAll rising found kept with ⟨later, shown, renewed⟩
  refine ⟨later, shown, renewed.version_le, ?_, ?_⟩
  · intro written
    exact renewed.version_lt (List.countP_pos_iff.2 written)
  · intro first second sees seesLater
    have earlierShown : first.directory.model? uri = some earlier := sees ▸ found
    have laterShown : second.directory.model? uri = some later := seesLater ▸ shown
    exact Host.lifetime_of_renewed earlierShown laterShown renewed

/-- A document at a negative version is updated, opened anew and updated again, while another
one is closed and opened at a lower version. -/
def risingVersions : List Operation :=
  [.updateDocument "a" "two", .closeDocument "b", .openDocument "a" "three" 0,
    .openDocument "b" "other" (-9), .updateDocument "a" "four"]

theorem performAll_lifetime_negative :
    let store := (empty.openDocument "a" "one" (-3)).openDocument "b" "other" 7
    store.get? "a" = some ⟨"a", -3, "one"⟩ ∧ store.Rising risingVersions ∧
      .closeDocument "a" ∉ risingVersions ∧
      ∃ later, (store.performAll risingVersions).1.get? "a" = some later ∧
        later = ⟨"a", 1, "four"⟩ ∧ (-3 : Int32) < later.version := by
  intro store
  have found : store.get? "a" = some ⟨"a", -3, "one"⟩ := by decide
  have rising : store.Rising risingVersions := by
    have notLast : (-3 : Int32) ≠ Int32.maxValue ∧ (0 : Int32) ≠ Int32.maxValue := by decide
    have greater : (nextVersion? (-3)).getD (-3) < 0 := by decide
    simp [store, risingVersions, Rising, Rises, Exhausts, perform, Document.updated, notLast,
      greater]
  have kept : .closeDocument "a" ∉ risingVersions := by decide
  rcases performAll_lifetime store "a" _ risingVersions found rising kept with
    ⟨later, shown, _, rises, _⟩
  have last : (store.performAll risingVersions).1.get? "a" = some ⟨"a", 1, "four"⟩ := by decide
  refine ⟨found, rising, kept, later, shown, ?_, rises ⟨_, List.mem_cons_self, rfl⟩⟩
  exact Option.some.inj (shown.symm.trans last)

end Store

end LanguageWorker
