import LanguageWorker.OrderedMap
import Mathlib.Data.List.Induction
import Mathlib.Data.List.Nodup

namespace LanguageWorker

/-! Entries, keys and look-ups of ordered maps say the same: a key looks up the value
of its one entry. The main statement says which entries are left when some are written one
after the other. -/

namespace OrderedMap

variable {β : Type}

theorem mem_entries_of_get? {map : OrderedMap β} {key : String} {value : β}
    (found : map.get? key = some value) : (key, value) ∈ map.entries := by
  rw [get?, List.lookup_eq_some_iff] at found
  rcases found with ⟨before, after, split, _⟩
  simp [split]

/-- Keys are distinct, so each entry is what its key looks up. -/
theorem get?_of_mem_entries {map : OrderedMap β} {key : String} {value : β}
    (member : (key, value) ∈ map.entries) : map.get? key = some value := by
  have listed : key ∈ map.keys := List.mem_map.2 ⟨(key, value), member, rfl⟩
  rcases Option.isSome_iff_exists.1 (isSome_get?_iff.2 listed) with ⟨other, found⟩
  have same : (key, other) = (key, value) :=
    List.inj_on_of_nodup_map map.distinct (mem_entries_of_get? found) member rfl
  rw [found, (Prod.mk.inj same).2]

theorem get?_eq_none_iff {map : OrderedMap β} {key : String} :
    map.get? key = none ↔ key ∉ map.keys := by
  rw [← isSome_get?_iff, Option.not_isSome_iff_eq_none]

theorem mem_entries_iff_get? {map : OrderedMap β} {key : String} {value : β} :
    (key, value) ∈ map.entries ↔ map.get? key = some value :=
  ⟨get?_of_mem_entries, mem_entries_of_get?⟩

theorem contains_iff_get? {map : OrderedMap β} {key : String} :
    map.contains key ↔ ∃ value, map.get? key = some value := by
  rw [contains_iff, ← isSome_get?_iff, Option.isSome_iff_exists]

theorem not_contains_iff_get? {map : OrderedMap β} {key : String} :
    ¬ map.contains key ↔ map.get? key = none := by
  rw [contains_iff, get?_eq_none_iff]

/-- Maps with the same keys in the same order and the same entries are the same. -/
theorem eq_of_keys_of_mem {first second : OrderedMap β} (keys : first.keys = second.keys)
    (same : ∀ entry, entry ∈ first.entries ↔ entry ∈ second.entries) : first = second := by
  apply OrderedMap.ext
  have lengths : first.entries.length = second.entries.length := by
    have count := congrArg List.length keys
    rwa [OrderedMap.keys, OrderedMap.keys, List.length_map, List.length_map] at count
  apply List.ext_getElem lengths
  intro place inFirst inSecond
  have key : first.entries[place].1 = second.entries[place].1 := by
    have there := List.getElem_of_eq keys ((List.length_map Prod.fst).symm ▸ inFirst)
    simpa only [OrderedMap.keys, List.getElem_map] using there
  exact List.inj_on_of_nodup_map second.distinct ((same _).1 (List.getElem_mem inFirst))
    (List.getElem_mem inSecond) key

/-! ## Entries written one after the other -/

/-- The last entry of a key: behind it come only entries of other keys. -/
def LastEntry (entries : List (String × β)) (key : String) (value : β) : Prop :=
  ∃ before after, entries = before ++ (key, value) :: after ∧ ∀ later ∈ after, later.1 ≠ key

theorem LastEntry.mem {entries : List (String × β)} {key : String} {value : β}
    (last : LastEntry entries key value) : (key, value) ∈ entries := by
  rcases last with ⟨before, after, rfl, _⟩
  exact List.mem_append_right before List.mem_cons_self

theorem not_lastEntry_nil {key : String} {value : β} : ¬ LastEntry [] key value :=
  fun last => List.not_mem_nil last.mem

/-- An entry counts unless its key comes again. -/
theorem lastEntry_append_iff {first second : List (String × β)} {key : String} {value : β} :
    LastEntry (first ++ second) key value ↔
      LastEntry second key value ∨
        LastEntry first key value ∧ ∀ later ∈ second, later.1 ≠ key := by
  constructor
  · intro last
    rcases last with ⟨before, after, split, silent⟩
    rcases List.append_eq_append_iff.1 split with
      ⟨between, _, second⟩ | ⟨between, first, behind⟩
    · exact .inl ⟨between, after, second, silent⟩
    · cases between with
      | nil => exact .inl ⟨[], after, behind.symm, silent⟩
      | cons entry between =>
          cases behind
          rcases List.forall_mem_append.1 silent with ⟨soon, later⟩
          exact .inr ⟨⟨before, between, first, soon⟩, later⟩
  · intro described
    rcases described with ⟨before, after, rfl, silent⟩ | ⟨⟨before, after, rfl, silent⟩, later⟩
    · exact ⟨first ++ before, after, (List.append_assoc _ _ _).symm, silent⟩
    · exact ⟨before, after ++ second, List.append_assoc _ _ _,
        List.forall_mem_append.2 ⟨silent, later⟩⟩

theorem lastEntry_singleton_iff {entry : String × β} {key : String} {value : β} :
    LastEntry [entry] key value ↔ (key, value) = entry := by
  constructor
  · intro last
    exact List.mem_singleton.1 last.mem
  · intro same
    exact ⟨[], [], same ▸ rfl, List.forall_mem_nil _⟩

/-- Where no key comes twice, every entry counts. -/
theorem lastEntry_iff_mem {entries : List (String × β)} (distinct : (entries.map Prod.fst).Nodup)
    {key : String} {value : β} : LastEntry entries key value ↔ (key, value) ∈ entries := by
  refine ⟨LastEntry.mem, ?_⟩
  intro listed
  rcases List.append_of_mem listed with ⟨before, after, rfl⟩
  rw [List.map_append, List.nodup_append] at distinct
  refine ⟨before, after, rfl, ?_⟩
  intro later listedLater same
  have again : later.1 ∈ after.map Prod.fst := List.mem_map_of_mem listedLater
  exact (List.nodup_cons.1 distinct.2.1).1 (same ▸ again)

theorem absent_or_lastEntry (entries : List (String × β)) (key : String) :
    (∀ entry ∈ entries, entry.1 ≠ key) ∨ ∃ value, LastEntry entries key value := by
  induction entries with
  | nil => exact .inl (List.forall_mem_nil _)
  | cons entry rest induction =>
      rcases induction with absent | ⟨value, before, after, rfl, later⟩
      · by_cases same : entry.1 = key
        · subst same
          exact .inr ⟨entry.2, [], rest, rfl, absent⟩
        · exact .inl (List.forall_mem_cons.2 ⟨same, absent⟩)
      · exact .inr ⟨value, entry :: before, after, rfl, later⟩

theorem get?_foldl_insert_of_absent {entries : List (String × β)} {key : String}
    (absent : ∀ entry ∈ entries, entry.1 ≠ key) (map : OrderedMap β) :
    (entries.foldl (fun map entry => map.insert entry.1 entry.2) map).get? key = map.get? key := by
  induction entries generalizing map with
  | nil => rfl
  | cons entry rest induction =>
      rcases List.forall_mem_cons.1 absent with ⟨other, later⟩
      rw [List.foldl_cons, induction later, get?_insert, if_neg other.symm]

/-- The last entry of a key is the one that counts. -/
theorem get?_ofList_of_lastEntry {entries : List (String × β)} {key : String} {value : β}
    (last : LastEntry entries key value) : (ofList entries).get? key = some value := by
  rcases last with ⟨before, after, rfl, absent⟩
  rw [ofList, List.foldl_append, List.foldl_cons, get?_foldl_insert_of_absent absent, get?_insert,
    if_pos rfl]

theorem get?_ofList_of_absent {entries : List (String × β)} {key : String}
    (absent : ∀ entry ∈ entries, entry.1 ≠ key) : (ofList entries).get? key = none :=
  get?_foldl_insert_of_absent absent empty

theorem mem_entries_ofList_iff {entries : List (String × β)} {key : String} {value : β} :
    (key, value) ∈ (ofList entries).entries ↔ LastEntry entries key value := by
  rw [mem_entries_iff_get?]
  rcases absent_or_lastEntry entries key with absent | ⟨found, last⟩
  · rw [get?_ofList_of_absent absent]
    exact iff_of_false nofun fun other => absent _ other.mem rfl
  · constructor
    · intro looked
      cases (get?_ofList_of_lastEntry last).symm.trans looked
      exact last
    · exact get?_ofList_of_lastEntry

/-- What has occurred before keeps its place, and what is new comes last. -/
theorem eraseDups_concat (items : List String) (item : String) :
    (items ++ [item]).eraseDups =
      if item ∈ items then items.eraseDups else items.eraseDups ++ [item] := by
  rw [List.eraseDups_append]
  by_cases occurred : item ∈ items
  · simp [List.removeAll, occurred]
  · simp [List.removeAll, occurred, List.eraseDups_cons]

/-- Keys stand in the order in which they first came in. -/
theorem keys_ofList (entries : List (String × β)) :
    (ofList entries).keys = (entries.map Prod.fst).eraseDups := by
  induction entries using List.reverseRecOn with
  | nil => rfl
  | append_singleton entries entry induction =>
      have written : ofList (entries ++ [entry]) = (ofList entries).insert entry.1 entry.2 :=
        List.foldl_append
      rw [written, keys_insert, List.map_append, List.map_singleton, eraseDups_concat, induction]
      simp only [List.mem_eraseDups]

/-- What is left in a map of entries that are written one after the other: the keys as they first
came in, each with the value that it was given last. -/
structure WrittenBy (map : OrderedMap β) (entries : List (String × β)) : Prop where
  keys : map.entries.map Prod.fst = (entries.map Prod.fst).eraseDups
  mem_entries_iff : ∀ key value, (key, value) ∈ map.entries ↔ LastEntry entries key value

theorem ofList_eq_iff {entries : List (String × β)} {map : OrderedMap β} :
    ofList entries = map ↔ map.WrittenBy entries := by
  constructor
  · intro same
    subst same
    exact ⟨keys_ofList entries, fun _ _ => mem_entries_ofList_iff⟩
  · intro written
    apply eq_of_keys_of_mem ((keys_ofList entries).trans written.keys.symm)
    intro entry
    exact mem_entries_ofList_iff.trans (written.mem_entries_iff entry.1 entry.2).symm

theorem keys_foldl_insert_sublist (entries : List (String × β)) (map : OrderedMap β) :
    (entries.foldl (fun map entry => map.insert entry.1 entry.2) map).keys.Sublist
      (map.keys ++ entries.map Prod.fst) := by
  induction entries generalizing map with
  | nil => exact List.sublist_append_left _ _
  | cons entry rest induction =>
      refine (induction (map.insert entry.1 entry.2)).trans ?_
      rw [List.map_cons, List.append_cons, keys_insert]
      apply List.Sublist.append_right
      split
      · exact List.sublist_append_left _ _
      · exact .refl _

theorem keys_ofList_sublist (entries : List (String × β)) :
    (ofList entries).keys.Sublist (entries.map Prod.fst) :=
  keys_foldl_insert_sublist entries empty

/-! ## Sizes -/

theorem size_keys (map : OrderedMap β) : map.keys.length = map.size := by
  simp [keys, size]

end OrderedMap

end LanguageWorker
