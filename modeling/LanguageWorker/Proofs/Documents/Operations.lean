import LanguageWorker.Documents.Store
import LanguageWorker.Proofs.OrderedMap

namespace LanguageWorker

/-! What opening, updating and closing a document do to the two ways in which a
store is read: the look-up of a URI, and the listing. Everything else about stores
follows from these equations, and nothing below opens a cell again. -/

/-! ## Versions -/

namespace Store

theorem nextVersion?_of_ne {version : Int32} (notLast : version ≠ Int32.maxValue) :
    nextVersion? version = some (version + 1) :=
  if_neg notLast

/-- Below the last version there is, counting up does not wrap. -/
theorem toInt_add_one {version : Int32} (notLast : version ≠ Int32.maxValue) :
    (version + 1).toInt = version.toInt + 1 := by
  have bounded : version.toInt < 2 ^ 31 := version.toInt_lt
  have least : -2 ^ 31 ≤ version.toInt := version.le_toInt
  have notMax : version.toInt ≠ 2 ^ 31 - 1 := fun equal => notLast (Int32.toInt_inj.1 equal)
  have one : (1 : Int32).toInt = 1 := by decide
  rw [Int32.toInt_add, one]
  exact Int.bmod_eq_of_le (by omega) (by omega)

end Store

namespace Document

/-- A document with another text, counted up as far as versions go. -/
def updated (document : Document) (text : String) : Document :=
  { document with
    text
    version := (Store.nextVersion? document.version).getD document.version }

/-- What an update of a document comes back with. -/
def updateOutcome (document : Document) : Store.UpdateOutcome :=
  match Store.nextVersion? document.version with
  | none => .versionsExhausted
  | some version => .updated version

variable {document : Document}

theorem toInt_version_updated (notLast : document.version ≠ Int32.maxValue) (text : String) :
    (document.updated text).version.toInt = document.version.toInt + 1 := by
  rw [updated, Store.nextVersion?_of_ne notLast]
  exact Store.toInt_add_one notLast

theorem updateOutcome_of_ne (notLast : document.version ≠ Int32.maxValue) (text : String) :
    document.updateOutcome = .updated (document.updated text).version := by
  rw [updateOutcome, updated, Store.nextVersion?_of_ne notLast]
  rfl

end Document

namespace Store

variable {store : Store} {uri : String} {handle : Handle}

/-! ## Reading a store -/

/-- A listed handle stands for a document of the URI it is listed under. -/
theorem read?_of_handle? (listed : store.handle? uri = some handle) :
    ∃ document, store.read? handle = some document ∧ document.uri = uri := by
  have member : (uri, handle) ∈ store.listing.entries :=
    OrderedMap.mem_entries_of_get? listed
  exact Option.map_eq_some_iff.1 (store.listed_uri _ member)

theorem get?_of_handle? (listed : store.handle? uri = some handle) :
    store.get? uri = store.read? handle := by
  rw [get?, listed]
  rfl

theorem get?_eq_some_iff {document : Document} :
    store.get? uri = some document ↔
      ∃ handle, store.handle? uri = some handle ∧ store.read? handle = some document :=
  Option.bind_eq_some_iff

theorem get?_of_handle?_none (absent : store.handle? uri = none) : store.get? uri = none := by
  rw [get?, absent]
  rfl

theorem get?_eq_none_iff : store.get? uri = none ↔ store.handle? uri = none := by
  cases listed : store.handle? uri with
  | none => simp [get?_of_handle?_none listed]
  | some handle =>
      rcases read?_of_handle? listed with ⟨document, shown, _⟩
      simp [get?_of_handle? listed, shown]

theorem uri_of_get? {document : Document} (found : store.get? uri = some document) :
    document.uri = uri := by
  rcases get?_eq_some_iff.1 found with ⟨handle, listed, shown⟩
  rcases read?_of_handle? listed with ⟨other, reads, same⟩
  rw [shown] at reads
  exact Option.some.inj reads ▸ same

/-- Two URIs never share a cell. -/
theorem uri_unique {other : String} (listed : store.handle? uri = some handle)
    (otherListed : store.handle? other = some handle) : other = uri := by
  rcases read?_of_handle? listed with ⟨document, shown, same⟩
  rcases read?_of_handle? otherListed with ⟨_, shownToo, otherSame⟩
  rw [shown] at shownToo
  rw [← same, ← otherSame, Option.some.inj shownToo]

theorem isSome_get?_iff : (store.get? uri).isSome ↔ uri ∈ store.listing.keys := by
  rw [← OrderedMap.isSome_get?_iff, ← not_iff_not, Option.not_isSome_iff_eq_none,
    Option.not_isSome_iff_eq_none]
  exact get?_eq_none_iff

/-- The listing names the documents in the order in which they are shown. -/
theorem map_uri_models (store : Store) :
    store.models.map Document.uri = store.listing.keys := by
  have named : ∀ entry ∈ store.listing.entries,
      (store.read? entry.2).map Document.uri = some entry.1 := store.listed_uri
  unfold models OrderedMap.values OrderedMap.keys
  rw [List.map_filterMap, List.filterMap_map, ← List.filterMap_eq_map]
  exact List.filterMap_congr named

theorem nodup_map_uri_models (store : Store) : (store.models.map Document.uri).Nodup := by
  rw [map_uri_models]
  exact store.listing.distinct

theorem mem_models_iff {document : Document} :
    document ∈ store.models ↔ store.get? document.uri = some document := by
  constructor
  · intro member
    rcases List.mem_filterMap.1 member with ⟨handle, listed, shown⟩
    rcases List.mem_map.1 listed with ⟨⟨name, _⟩, entry, rfl⟩
    have found := OrderedMap.get?_of_mem_entries entry
    rcases read?_of_handle? found with ⟨other, reads, same⟩
    rw [shown] at reads
    cases reads
    rw [same, get?_of_handle? found, shown]
  · intro found
    rcases get?_eq_some_iff.1 found with ⟨handle, listed, shown⟩
    have entry : (document.uri, handle) ∈ store.listing.entries :=
      OrderedMap.mem_entries_of_get? listed
    exact List.mem_filterMap.2 ⟨handle, List.mem_map.2 ⟨_, entry, rfl⟩, shown⟩

/-- Looking a document up gives what a search of the listing gives. -/
theorem get?_eq_firstOf (store : Store) (uri : String) :
    store.get? uri = Directory.firstOf store.models uri := by
  cases search : Directory.firstOf store.models uri with
  | none =>
      rw [Directory.firstOf, List.find?_eq_none] at search
      cases found : store.get? uri with
      | none => rfl
      | some document =>
          have same := uri_of_get? found
          have member : document ∈ store.models := mem_models_iff.2 (same.symm ▸ found)
          exact absurd (beq_iff_eq.2 same) (search document member)
  | some document =>
      rw [Directory.firstOf] at search
      have same : document.uri = uri := by simpa using List.find?_some search
      have member : document ∈ store.models := List.mem_of_find?_eq_some search
      rw [← same]
      exact mem_models_iff.1 member

theorem length_models (store : Store) : store.models.length = store.size := by
  rw [← List.length_map Document.uri, map_uri_models]
  exact OrderedMap.size_keys store.listing

theorem isEmpty_models (store : Store) : store.models.isEmpty = store.isEmpty := by
  rw [Bool.eq_iff_iff, List.isEmpty_iff_length_eq_zero, length_models, isEmpty,
    OrderedMap.isEmpty, List.isEmpty_iff_length_eq_zero]
  rfl

@[simp] theorem get?_empty (uri : String) : Store.empty.get? uri = none := rfl

@[simp] theorem keys_empty : Store.empty.listing.keys = [] := rfl

/-! ## Opening -/

/-- The cell that an opening takes is one that nothing is listed under. -/
theorem read?_push_of_handle? (listed : store.handle? uri = some handle)
    (document : Document) :
    (store.cells.push document)[handle]? = store.read? handle := by
  rcases read?_of_handle? listed with ⟨shown, reads, _⟩
  have inside : handle < store.cells.size := (Array.getElem?_eq_some_iff.1 reads).1
  rw [Array.getElem?_push_lt inside, read?, Array.getElem?_eq_getElem inside]

@[simp] theorem get?_openDocument (store : Store) (uri text other : String)
    (version : Int32) :
    (store.openDocument uri text version).get? other =
      if other = uri then some { uri, version, text } else store.get? other := by
  have listed : (store.openDocument uri text version).handle? other =
      if other = uri then some store.cells.size else store.handle? other :=
    OrderedMap.get?_insert store.listing uri other store.cells.size
  split
  · next same =>
      rw [if_pos same] at listed
      rw [get?_of_handle? listed]
      exact Array.getElem?_push_size
  · next different =>
      rw [if_neg different] at listed
      cases found : store.handle? other with
      | none =>
          rw [found] at listed
          rw [get?_of_handle?_none listed, get?_of_handle?_none found]
      | some handle =>
          rw [found] at listed
          rw [get?_of_handle? listed, get?_of_handle? found]
          exact read?_push_of_handle? found _

theorem keys_openDocument (store : Store) (uri text : String) (version : Int32) :
    (store.openDocument uri text version).listing.keys =
      if uri ∈ store.listing.keys then store.listing.keys
      else store.listing.keys ++ [uri] :=
  OrderedMap.keys_insert store.listing uri store.cells.size

/-! ## Closing -/

@[simp] theorem get?_closeDocument (store : Store) (uri other : String) :
    (store.closeDocument uri).1.get? other =
      if other = uri then none else store.get? other := by
  have listed : (store.closeDocument uri).1.handle? other =
      if other = uri then none else store.handle? other :=
    OrderedMap.get?_erase store.listing uri other
  rw [get?, listed]
  split <;> rfl

theorem keys_closeDocument (store : Store) (uri : String) :
    (store.closeDocument uri).1.listing.keys = store.listing.keys.filter (· != uri) :=
  OrderedMap.keys_erase store.listing uri

theorem closeDocument_snd_iff :
    (store.closeDocument uri).2 = true ↔ uri ∈ store.listing.keys :=
  OrderedMap.contains_iff

/-! ## Updating -/

theorem updateDocument_of_closed (closed : store.get? uri = none) (text : String) :
    store.updateDocument uri text = (store, .notOpen) := by
  rw [updateDocument, get?_eq_none_iff.1 closed]

/-- Writing to a listed cell changes what is read under its URI and nothing else. -/
theorem get?_write (listed : store.handle? uri = some handle) (other text : String)
    (version : Int32) :
    (store.write handle text version).get? other =
      if other = uri then
        (store.get? uri).map fun document => { document with text, version }
      else store.get? other := by
  have keeps : ∀ name, (store.write handle text version).handle? name = store.handle? name :=
    fun _ => rfl
  have shows : ∀ place, (store.write handle text version).read? place =
      if handle = place then
        (store.read? place).map fun document => { document with text, version }
      else store.read? place := fun _ => Array.getElem?_modify
  split
  · next same =>
      rw [same, get?_of_handle? ((keeps uri).trans listed), get?_of_handle? listed, shows,
        if_pos rfl]
  · next different =>
      cases found : store.handle? other with
      | none =>
          rw [get?_of_handle?_none found, get?_of_handle?_none ((keeps other).trans found)]
      | some place =>
          have apart : handle ≠ place := fun equal =>
            different (uri_unique listed (equal ▸ found))
          rw [get?_of_handle? found, get?_of_handle? ((keeps other).trans found), shows,
            if_neg apart]

theorem updateDocument_of_open {document : Document} (listed : store.handle? uri = some handle)
    (found : store.get? uri = some document) (text : String) :
    store.updateDocument uri text =
      (store.write handle text (document.updated text).version, document.updateOutcome) := by
  rw [get?_of_handle? listed] at found
  simp only [updateDocument, listed, found, Document.updated, Document.updateOutcome]
  cases nextVersion? document.version <;> rfl

@[simp] theorem get?_updateDocument (store : Store) (uri text other : String) :
    (store.updateDocument uri text).1.get? other =
      if other = uri then (store.get? uri).map (Document.updated · text)
      else store.get? other := by
  cases found : store.get? uri with
  | none =>
      rw [updateDocument_of_closed found]
      split
      · next same => rw [same, found, Option.map_none]
      · rfl
  | some document =>
      rcases get?_eq_some_iff.1 found with ⟨handle, listed, _⟩
      rw [updateDocument_of_open listed found, get?_write listed, found]
      rfl

@[simp] theorem listing_updateDocument (store : Store) (uri text : String) :
    (store.updateDocument uri text).1.listing = store.listing := by
  cases found : store.get? uri with
  | none => rw [updateDocument_of_closed found]
  | some document =>
      rcases get?_eq_some_iff.1 found with ⟨handle, listed, _⟩
      rw [updateDocument_of_open listed found]
      rfl

theorem updateDocument_snd (store : Store) (uri text : String) :
    (store.updateDocument uri text).2 =
      ((store.get? uri).map Document.updateOutcome).getD .notOpen := by
  cases found : store.get? uri with
  | none =>
      rw [updateDocument_of_closed found]
      rfl
  | some document =>
      rcases get?_eq_some_iff.1 found with ⟨handle, listed, _⟩
      rw [updateDocument_of_open listed found]
      rfl

end Store

end LanguageWorker
