import LanguageWorker.Proofs.OrderedMap
import Mathlib.Data.List.Sort

namespace LanguageWorker.OrderedMap

/-! A map whose entries have been put in the order of their keys. No look-up can tell it
from the map itself; the listings can, unless that was in order already. -/

variable {β : Type}

/-- Entries by their keys. -/
def NotAfter (first second : String × β) : Prop := first.1 ≤ second.1

instance : DecidableRel (@NotAfter β) :=
  fun first second => inferInstanceAs (Decidable (first.1 ≤ second.1))

instance : Std.Total (@NotAfter β) := ⟨fun first second => String.le_total first.1 second.1⟩

instance : IsTrans (String × β) NotAfter := ⟨fun _ _ _ => String.le_trans⟩

/-- The entries of a map in the order of their keys. -/
def sorted (map : OrderedMap β) : OrderedMap β where
  entries := map.entries.insertionSort NotAfter
  distinct := (((map.entries.perm_insertionSort NotAfter).map Prod.fst).nodup_iff).2 map.distinct

theorem entries_sorted_perm (map : OrderedMap β) : map.sorted.entries.Perm map.entries :=
  map.entries.perm_insertionSort NotAfter

theorem keys_sorted_perm (map : OrderedMap β) : map.sorted.keys.Perm map.keys :=
  map.entries_sorted_perm.map Prod.fst

/-- Keys are distinct, so that in order they strictly increase. -/
theorem keys_sorted_pairwise (map : OrderedMap β) : map.sorted.keys.Pairwise (· < ·) := by
  have ascending : map.sorted.keys.Pairwise (· ≤ ·) :=
    (map.entries.pairwise_insertionSort NotAfter).map Prod.fst fun _ _ before => before
  exact (ascending.and map.sorted.distinct).imp fun both => Std.lt_of_le_of_ne both.1 both.2

theorem get?_sorted (map : OrderedMap β) (key : String) : map.sorted.get? key = map.get? key := by
  apply Option.ext
  intro value
  constructor
  · intro found
    exact get?_of_mem_entries (map.entries_sorted_perm.mem_iff.1 (mem_entries_of_get? found))
  · intro found
    exact get?_of_mem_entries (map.entries_sorted_perm.mem_iff.2 (mem_entries_of_get? found))

@[simp] theorem contains_sorted (map : OrderedMap β) (key : String) :
    map.sorted.contains key = map.contains key := by
  rw [Bool.eq_iff_iff, contains_iff, contains_iff, map.keys_sorted_perm.mem_iff]

theorem sorted_of_pairwise {map : OrderedMap β} (ascending : map.keys.Pairwise (· < ·)) :
    map.sorted = map := by
  apply OrderedMap.ext
  apply List.Pairwise.insertionSort_eq
  exact (List.pairwise_map.1 ascending).imp fun before => Std.le_of_lt before

theorem keys_sorted_eq_iff {map : OrderedMap β} :
    map.sorted.keys = map.keys ↔ map.keys.Pairwise (· < ·) := by
  constructor
  · intro same
    exact same ▸ map.keys_sorted_pairwise
  · intro ascending
    rw [sorted_of_pairwise ascending]

/-! ## Writing the entries again -/

theorem put_of_absent {key : String} {value : β} {entries : List (String × β)}
    (absent : key ∉ entries.map Prod.fst) : put key value entries = entries ++ [(key, value)] := by
  induction entries with
  | nil => rfl
  | cons entry rest induction =>
      rw [List.map_cons, List.mem_cons, not_or] at absent
      rw [put, if_neg (Ne.symm absent.1), induction absent.2, List.cons_append]

theorem entries_foldl_insert {entries : List (String × β)} {map : OrderedMap β}
    (distinct : ((map.entries ++ entries).map Prod.fst).Nodup) :
    (entries.foldl (fun map entry => map.insert entry.1 entry.2) map).entries =
      map.entries ++ entries := by
  induction entries generalizing map with
  | nil => rw [List.foldl_nil, List.append_nil]
  | cons entry rest induction =>
      have absent : entry.1 ∉ map.entries.map Prod.fst := by
        rw [List.map_append, List.nodup_append] at distinct
        intro listed
        exact distinct.2.2 entry.1 listed entry.1 List.mem_cons_self rfl
      have written : (map.insert entry.1 entry.2).entries = map.entries ++ [entry] :=
        put_of_absent absent
      have joined : (map.insert entry.1 entry.2).entries ++ rest =
          map.entries ++ entry :: rest := by
        rw [written, List.append_assoc, List.singleton_append]
      rw [List.foldl_cons, induction (joined ▸ distinct), joined]

theorem entries_ofList {entries : List (String × β)} (distinct : (entries.map Prod.fst).Nodup) :
    (ofList entries).entries = entries :=
  entries_foldl_insert distinct

theorem ofList_entries (map : OrderedMap β) : ofList map.entries = map :=
  OrderedMap.ext (entries_ofList map.distinct)

end LanguageWorker.OrderedMap
