import LanguageWorker.Proofs.Documents.Run

namespace LanguageWorker.Store

/-! The life of a handle. While its URI is listed under it, a handle shows the document
that is open. Closing that document or opening it anew detaches the handle. An update
writes only to a cell that is listed, and an opening takes a cell that nobody has, so
nothing reaches a detached handle again and it stays as it was when it was detached. -/

/-- The ways to come by a handle for a URI: looking the URI up, or going through the listing
until a document of that URI shows. -/
inductive Taken (store : Store) (uri : String) (handle : Handle) : Prop
  | lookedUp (found : store.handle? uri = some handle)
  | listed (member : handle ∈ store.listing.values)
      (shows : (store.read? handle).map Document.uri = some uri)

/-- An operation that ends the life of a URI's document. -/
inductive Operation.Detaches (uri : String) : Operation → Prop
  | openDocument (text : String) (version : Int32) : Detaches uri (.openDocument uri text version)
  | closeDocument : Detaches uri (.closeDocument uri)

/-- A handle with a cell that no URI is listed under. -/
structure Detached (store : Store) (handle : Handle) : Prop where
  inside : handle < store.cells.size
  unlisted : ∀ uri, store.handle? uri ≠ some handle

variable {store : Store} {uri : String} {handle : Handle} {operation : Operation}

theorem taken_iff : Taken store uri handle ↔ store.handle? uri = some handle := by
  refine ⟨?_, .lookedUp⟩
  intro taken
  cases taken with
  | lookedUp found => exact found
  | listed member shows =>
      rcases List.mem_map.1 member with ⟨⟨name, _⟩, entry, rfl⟩
      have found : store.handle? name = some _ := OrderedMap.get?_of_mem_entries entry
      have named : (store.read? _).map Document.uri = some name := store.listed_uri _ entry
      rw [named] at shows
      exact Option.some.inj shows ▸ found

theorem lt_size_of_handle? (found : store.handle? uri = some handle) :
    handle < store.cells.size := by
  rcases read?_of_handle? found with ⟨document, reads, _⟩
  exact (Array.getElem?_eq_some_iff.1 reads).1

/-! ## Which handle a URI is listed under -/

theorem handle?_openDocument (store : Store) (opened text : String) (version : Int32)
    (uri : String) :
    (store.openDocument opened text version).handle? uri =
      if uri = opened then some store.cells.size else store.handle? uri :=
  OrderedMap.get?_insert store.listing opened uri store.cells.size

theorem handle?_updateDocument (store : Store) (updated text uri : String) :
    (store.updateDocument updated text).1.handle? uri = store.handle? uri := by
  rw [handle?, listing_updateDocument, handle?]

theorem handle?_closeDocument (store : Store) (closed uri : String) :
    (store.closeDocument closed).1.handle? uri =
      if uri = closed then none else store.handle? uri :=
  OrderedMap.get?_erase store.listing closed uri

theorem handle?_perform_of_not_detaches (store : Store) (kept : ¬ operation.Detaches uri) :
    (store.perform operation).1.handle? uri = store.handle? uri := by
  cases operation with
  | openDocument opened text version =>
      have different : uri ≠ opened := fun same => kept (same ▸ .openDocument text version)
      exact (handle?_openDocument store opened text version uri).trans (if_neg different)
  | updateDocument updated text => exact handle?_updateDocument store updated text uri
  | closeDocument closed =>
      have different : uri ≠ closed := fun same => kept (same ▸ .closeDocument)
      exact (handle?_closeDocument store closed uri).trans (if_neg different)

/-- A URI is listed under the handle it had before, or under a cell that has just been made. -/
theorem handle?_perform (found : (store.perform operation).1.handle? uri = some handle) :
    store.handle? uri = some handle ∨ handle = store.cells.size := by
  cases operation with
  | openDocument opened text version =>
      have listed := (handle?_openDocument store opened text version uri).symm.trans found
      split at listed
      · exact .inr (Option.some.inj listed).symm
      · exact .inl listed
  | updateDocument updated text =>
      exact .inl ((handle?_updateDocument store updated text uri).symm.trans found)
  | closeDocument closed =>
      have listed := (handle?_closeDocument store closed uri).symm.trans found
      split at listed
      · cases listed
      · exact .inl listed

/-! ## What a cell shows -/

theorem size_perform (store : Store) (operation : Operation) :
    store.cells.size ≤ (store.perform operation).1.cells.size := by
  cases operation with
  | openDocument opened text version => simp [perform, Store.openDocument]
  | updateDocument updated text =>
      simp only [perform, Store.updateDocument]
      split
      · exact Nat.le_refl _
      · split
        · exact Nat.le_refl _
        · split <;> simp [write]
  | closeDocument closed => exact Nat.le_refl _

/-- Only an update of a URI that is listed under a cell writes to that cell. -/
theorem read?_perform (inside : handle < store.cells.size)
    (silent : ∀ updated text, operation = .updateDocument updated text →
      store.handle? updated ≠ some handle) :
    (store.perform operation).1.read? handle = store.read? handle := by
  cases operation with
  | openDocument opened text version =>
      simp only [perform, Store.openDocument, read?]
      rw [Array.getElem?_push_lt inside, Array.getElem?_eq_getElem inside]
  | updateDocument updated text =>
      have elsewhere := silent updated text rfl
      simp only [perform]
      cases found : store.get? updated with
      | none => rw [updateDocument_of_closed found]
      | some document =>
          rcases get?_eq_some_iff.1 found with ⟨place, listed, _⟩
          have apart : place ≠ handle := fun same => elsewhere (same ▸ listed)
          rw [updateDocument_of_open listed found]
          exact Array.getElem?_modify.trans (if_neg apart)
  | closeDocument closed => rfl

theorem read?_perform_of_ne (listed : store.handle? uri = some handle)
    (different : operation.uri ≠ uri) :
    (store.perform operation).1.read? handle = store.read? handle := by
  apply read?_perform (lt_size_of_handle? listed)
  intro updated text same found
  subst same
  exact different (uri_unique listed found)

/-! ## Detaching -/

theorem Detached.read?_perform (detached : Detached store handle) (operation : Operation) :
    (store.perform operation).1.read? handle = store.read? handle :=
  Store.read?_perform detached.inside fun updated _ _ => detached.unlisted updated

theorem Detached.perform (detached : Detached store handle) (operation : Operation) :
    Detached (store.perform operation).1 handle where
  inside := Nat.lt_of_lt_of_le detached.inside (size_perform store operation)
  unlisted uri found := by
    rcases handle?_perform found with earlier | fresh
    · exact detached.unlisted uri earlier
    · exact Nat.ne_of_lt detached.inside fresh

/-- What a detached handle shows, it shows for ever. -/
theorem Detached.read?_performAll (detached : Detached store handle)
    (operations : List Operation) :
    (store.performAll operations).1.read? handle = store.read? handle := by
  induction operations generalizing store with
  | nil => rfl
  | cons operation rest induction =>
      exact (induction (detached.perform operation)).trans (detached.read?_perform operation)

theorem detached_of_detaches (listed : store.handle? uri = some handle)
    (detaches : operation.Detaches uri) : Detached (store.perform operation).1 handle where
  inside := Nat.lt_of_lt_of_le (lt_size_of_handle? listed) (size_perform store operation)
  unlisted other found := by
    have inside := lt_size_of_handle? listed
    rcases handle?_perform found with earlier | fresh
    · -- The handle was listed under this URI alone, and here it has just been given up.
      cases uri_unique listed earlier
      cases detaches with
      | openDocument text version =>
          have renewed := (handle?_openDocument store uri text version uri).symm.trans found
          rw [if_pos rfl] at renewed
          exact Nat.ne_of_lt inside (Option.some.inj renewed).symm
      | closeDocument =>
          have removed := (handle?_closeDocument store uri uri).symm.trans found
          rw [if_pos rfl] at removed
          cases removed
    · exact Nat.ne_of_lt inside fresh

theorem read?_perform_of_detaches (listed : store.handle? uri = some handle)
    (detaches : operation.Detaches uri) :
    (store.perform operation).1.read? handle = store.read? handle := by
  apply read?_perform (lt_size_of_handle? listed)
  intro updated text same
  subst same
  cases detaches

/-! ## Runs -/

theorem handle?_performAll_of_not_detaches (listed : store.handle? uri = some handle)
    {operations : List Operation} (kept : ∀ operation ∈ operations, ¬ operation.Detaches uri) :
    (store.performAll operations).1.handle? uri = some handle := by
  induction operations generalizing store with
  | nil => exact listed
  | cons operation rest induction =>
      rcases List.forall_mem_cons.1 kept with ⟨here, later⟩
      exact induction ((handle?_perform_of_not_detaches store here).trans listed) later

theorem read?_performAll_of_detaches (listed : store.handle? uri = some handle)
    (detaches : operation.Detaches uri) (after : List Operation) :
    (store.performAll (operation :: after)).1.read? handle = store.read? handle :=
  ((detached_of_detaches listed detaches).read?_performAll after).trans
    (read?_perform_of_detaches listed detaches)

theorem listed_or_detached_perform (operation : Operation)
    (before : store.handle? uri = some handle ∨ Detached store handle) :
    (store.perform operation).1.handle? uri = some handle ∨
      Detached (store.perform operation).1 handle := by
  rcases before with listed | detached
  · by_cases detaches : operation.Detaches uri
    · exact .inr (detached_of_detaches listed detaches)
    · exact .inl ((handle?_perform_of_not_detaches store detaches).trans listed)
  · exact .inr (detached.perform operation)

theorem listed_or_detached_performAll (operations : List Operation)
    (before : store.handle? uri = some handle ∨ Detached store handle) :
    (store.performAll operations).1.handle? uri = some handle ∨
      Detached (store.performAll operations).1 handle := by
  induction operations generalizing store with
  | nil => exact before
  | cons operation rest induction => exact induction (listed_or_detached_perform operation before)

/-- What a handle shows over any run that follows its being taken. -/
structure Life (store : Store) (uri : String) (handle : Handle) : Prop where
  /-- The handle shows the open document, as long as that is neither closed nor opened anew. -/
  live : ∀ later, (∀ operation ∈ later, ¬ operation.Detaches uri) →
    ∃ document, (store.performAll later).1.read? handle = some document ∧
      document.uri = uri ∧ (store.performAll later).1.get? uri = some document
  /-- From the first closing or reopening on, it shows what it showed just before. -/
  frozen : ∀ before operation after, (∀ earlier ∈ before, ¬ earlier.Detaches uri) →
    operation.Detaches uri →
    (store.performAll (before ++ operation :: after)).1.read? handle =
      (store.performAll before).1.read? handle
  /-- Operations on other URIs are never felt. -/
  others : ∀ before operation, operation.uri ≠ uri →
    (store.performAll (before ++ [operation])).1.read? handle =
      (store.performAll before).1.read? handle
  /-- Another handle for the URI shows the same for ever, if it is taken before the document
  is closed or opened anew. -/
  shared : ∀ before after other, (∀ operation ∈ before, ¬ operation.Detaches uri) →
    Taken (store.performAll before).1 uri other →
    (store.performAll (before ++ after)).1.read? other =
      (store.performAll (before ++ after)).1.read? handle

/-- Whatever run has led to a store and whatever run follows, a handle that is taken from it
is live up to the first closing or reopening of its document and frozen afterwards. -/
theorem life_of_taken (taken : Taken store uri handle) : Life store uri handle := by
  have listed := taken_iff.1 taken
  constructor
  · intro later kept
    have stays := handle?_performAll_of_not_detaches listed kept
    rcases read?_of_handle? stays with ⟨document, reads, same⟩
    exact ⟨document, reads, same, (get?_of_handle? stays).trans reads⟩
  · intro before operation after kept detaches
    have stays := handle?_performAll_of_not_detaches listed kept
    rw [performAll_append]
    exact read?_performAll_of_detaches stays detaches after
  · intro before operation different
    rw [performAll_append]
    rcases listed_or_detached_performAll before (.inl listed) with stays | detached
    · exact read?_perform_of_ne stays different
    · exact detached.read?_perform operation
  · intro before after other kept otherTaken
    have stays := handle?_performAll_of_not_detaches listed kept
    rw [Option.some.inj ((taken_iff.1 otherTaken).symm.trans stays)]

/-- Of a document that is updated, opened anew, updated again, closed and opened once more, a
handle that was taken at first shows the first update alone. -/
theorem life_of_taken_reopened :
    let store := (empty.performAll [.openDocument "b" "zero" 0, .openDocument "a" "one" 1]).1
    Taken store "a" 1 ∧
      (store.performAll [.updateDocument "a" "two", .openDocument "a" "three" 7,
        .updateDocument "a" "four", .closeDocument "a", .openDocument "a" "five" 3]).1.read? 1 =
          some ⟨"a", 2, "two"⟩ ∧
      Life store "a" 1 := by
  intro store
  have taken : Taken store "a" 1 := .listed (by decide) (by decide)
  exact ⟨taken, by decide, life_of_taken taken⟩

end LanguageWorker.Store
