import LanguageWorker.Proofs.Documents.Run

namespace LanguageWorker.Store

/-! Stores that differ by one document. What an operation on another URI does to a store,
and what it comes back with, does not hang on that document being there, so two stores
that differ by it stay so. Once the document is closed, both are seen alike. -/

/-- The second store shows what the first shows, in the same order, but for the document of
one URI. -/
structure Without (uri : String) (first second : Store) : Prop where
  keys : second.listing.keys = first.listing.keys.filter (· != uri)
  documents : ∀ other, other ≠ uri → second.get? other = first.get? other

variable {uri : String} {first second : Store} {operation : Operation}

/-! ## One operation on two stores -/

/-- What is found under a URI after an operation hangs on what was found there before. -/
theorem get?_perform_congr {other : String} (same : second.get? other = first.get? other)
    (operation : Operation) :
    (second.perform operation).1.get? other = (first.perform operation).1.get? other := by
  cases operation with
  | openDocument opened text version =>
      simp only [perform, get?_openDocument, same]
  | updateDocument updated text =>
      simp only [perform, get?_updateDocument]
      split
      · next here => rw [← here, same]
      · exact same
  | closeDocument closed =>
      simp only [perform, get?_closeDocument, same]

/-- What an operation comes back with hangs on what is found under its own URI. -/
theorem perform_snd_congr (same : second.get? operation.uri = first.get? operation.uri) :
    (second.perform operation).2 = (first.perform operation).2 := by
  cases operation with
  | openDocument opened text version => rfl
  | updateDocument updated text =>
      have found : second.get? updated = first.get? updated := same
      simp only [perform, updateDocument_snd, found]
  | closeDocument closed =>
      have found : second.get? closed = first.get? closed := same
      have answered : (second.closeDocument closed).2 = (first.closeDocument closed).2 := by
        rw [Bool.eq_iff_iff, closeDocument_snd_iff, closeDocument_snd_iff, ← isSome_get?_iff,
          ← isSome_get?_iff, found]
      exact congrArg Outcome.closed answered

theorem keys_perform_filter_of_eq (store : Store) (about : operation.uri = uri) :
    (store.perform operation).1.listing.keys.filter (· != uri) =
      store.listing.keys.filter (· != uri) := by
  subst about
  cases operation with
  | openDocument opened text version =>
      simp only [perform, keys_openDocument, Operation.uri]
      split
      · rfl
      · simp
  | updateDocument updated text => simp only [perform, listing_updateDocument]
  | closeDocument closed => simp [perform, keys_closeDocument, Operation.uri, List.filter_filter]

/-! ## Stores that differ by a document -/

theorem without_self {store : Store} (closed : store.get? uri = none) :
    Without uri store store where
  keys := by
    have absent : uri ∉ store.listing.keys := by
      rw [← isSome_get?_iff, closed]
      exact Bool.false_ne_true
    symm
    apply List.filter_eq_self.2
    intro key listed
    exact bne_iff_ne.2 fun same => absent (same ▸ listed)
  documents _ _ := rfl

namespace Without

theorem mem_keys_iff (without : Without uri first second) {other : String}
    (different : other ≠ uri) : other ∈ second.listing.keys ↔ other ∈ first.listing.keys := by
  simp [without.keys, different]

/-- An operation on that document may happen in the first store alone. -/
theorem perform_left (without : Without uri first second) (about : operation.uri = uri) :
    Without uri (first.perform operation).1 second where
  keys := without.keys.trans (keys_perform_filter_of_eq first about).symm
  documents other different := by
    have elsewhere : operation.uri ≠ other := fun same => different (same.symm.trans about)
    exact (without.documents other different).trans (first.get?_perform_of_ne elsewhere).symm

theorem keys_perform (without : Without uri first second) (elsewhere : operation.uri ≠ uri) :
    (second.perform operation).1.listing.keys =
      (first.perform operation).1.listing.keys.filter (· != uri) := by
  cases operation with
  | openDocument opened text version =>
      have different : opened ≠ uri := elsewhere
      simp only [perform, keys_openDocument, without.mem_keys_iff different]
      split
      · exact without.keys
      · simp [without.keys, different]
  | updateDocument updated text =>
      simp only [perform, listing_updateDocument]
      exact without.keys
  | closeDocument closed =>
      simp only [perform, keys_closeDocument, without.keys]
      exact List.filter_comm _ _ _

/-- Any other operation has to happen in both. -/
theorem perform_both (without : Without uri first second) (elsewhere : operation.uri ≠ uri) :
    Without uri (first.perform operation).1 (second.perform operation).1 where
  keys := without.keys_perform elsewhere
  documents other different := get?_perform_congr (without.documents other different) operation

theorem perform_snd (without : Without uri first second) (elsewhere : operation.uri ≠ uri) :
    (second.perform operation).2 = (first.perform operation).2 :=
  perform_snd_congr (without.documents operation.uri elsewhere)

end Without

/-! ## What a worker sees -/

/-- The listing shows what looking its URIs up one by one shows. -/
theorem models_eq_filterMap (store : Store) :
    store.models = store.listing.keys.filterMap store.get? := by
  rw [models, OrderedMap.values, OrderedMap.keys, List.filterMap_map, List.filterMap_map]
  apply List.filterMap_congr
  intro entry listed
  exact (get?_of_handle? (OrderedMap.get?_of_mem_entries listed)).symm

theorem directory_eq (keys : second.listing.keys = first.listing.keys)
    (documents : ∀ uri, second.get? uri = first.get? uri) :
    second.directory = first.directory := by
  have found : second.get? = first.get? := funext documents
  rw [directory, directory, models_eq_filterMap, models_eq_filterMap, keys, found]

theorem Without.directory_eq (without : Without uri first second)
    (closed : first.get? uri = none) : second.directory = first.directory := by
  have absent : second.get? uri = none := by
    rw [← Option.not_isSome_iff_eq_none, isSome_get?_iff, without.keys]
    simp
  apply Store.directory_eq
  · exact without.keys.trans (without_self closed).keys.symm
  · intro other
    by_cases same : other = uri
    · rw [same, absent, closed]
    · exact without.documents other same

end LanguageWorker.Store
