namespace LanguageWorker

/-! Finite maps that list their entries in the order in which the keys first
came in. Writing to a key that is already there keeps its place; taking a key
out moves no other. -/

/-- A map from names to values, in order of first insertion. -/
structure OrderedMap (β : Type) where
  entries : List (String × β)
  distinct : (entries.map Prod.fst).Nodup

namespace OrderedMap

variable {β : Type}

/-- The entries with a value written at a key. -/
def put (key : String) (value : β) : List (String × β) → List (String × β)
  | [] => [(key, value)]
  | entry :: rest =>
      if entry.1 = key then (key, value) :: rest else entry :: put key value rest

theorem keys_put (key : String) (value : β) (entries : List (String × β)) :
    (put key value entries).map Prod.fst =
      if key ∈ entries.map Prod.fst then entries.map Prod.fst
      else entries.map Prod.fst ++ [key] := by
  induction entries with
  | nil => simp [put]
  | cons entry rest induction =>
      by_cases equal : entry.1 = key
      · simp [put, equal]
      · have different : key ≠ entry.1 := Ne.symm equal
        simp only [put, equal, if_false, List.map_cons, List.mem_cons, different, false_or,
          induction]
        split <;> simp

theorem nodup_put {key : String} {value : β} {entries : List (String × β)}
    (distinct : (entries.map Prod.fst).Nodup) :
    ((put key value entries).map Prod.fst).Nodup := by
  rw [keys_put]
  split
  · exact distinct
  · next absent =>
      refine List.nodup_append.2 ⟨distinct, by simp, ?_⟩
      intro first member second single
      simp only [List.mem_singleton] at single
      subst single
      intro equal
      exact absent (equal ▸ member)

theorem mem_put {key : String} {value : β}
    {entries : List (String × β)} {entry : String × β}
    (member : entry ∈ put key value entries) :
    entry = (key, value) ∨ entry ∈ entries := by
  induction entries with
  | nil => simpa [put] using member
  | cons other rest induction =>
      unfold put at member
      split at member
      · rcases List.mem_cons.1 member with first | later
        · exact .inl first
        · exact .inr (List.mem_cons_of_mem other later)
      · rcases List.mem_cons.1 member with first | later
        · exact .inr (first ▸ List.mem_cons_self)
        · rcases induction later with written | kept
          · exact .inl written
          · exact .inr (List.mem_cons_of_mem other kept)

theorem lookup_entry (key : String) (entry : String × β) (rest : List (String × β)) :
    (entry :: rest).lookup key = if key = entry.1 then some entry.2 else rest.lookup key := by
  obtain ⟨name, value⟩ := entry
  rw [List.lookup_cons]
  split
  · next same => rw [if_pos (eq_of_beq same)]
  · next different => rw [if_neg (ne_of_beq_false different)]

theorem lookup_put (key other : String) (value : β) (entries : List (String × β)) :
    (put key value entries).lookup other =
      if other = key then some value else entries.lookup other := by
  induction entries with
  | nil => rw [put, lookup_entry]
  | cons entry rest induction =>
      rw [put, lookup_entry]
      split
      · next here => rw [lookup_entry, here]; split <;> rfl
      · next different =>
          rw [lookup_entry, induction]
          split
          · next first => rw [if_neg (fun equal => different (first.symm.trans equal))]
          · rfl

theorem lookup_filter_ne (key other : String) (entries : List (String × β)) :
    (entries.filter fun entry => entry.1 != key).lookup other =
      if other = key then none else entries.lookup other := by
  induction entries with
  | nil => exact (ite_self _).symm
  | cons entry rest induction =>
      rw [List.filter_cons, lookup_entry]
      split
      · next kept =>
          have different : entry.1 ≠ key := bne_iff_ne.1 kept
          rw [lookup_entry, induction]
          split
          · next first => rw [if_neg (fun equal => different (first.symm.trans equal))]
          · rfl
      · next dropped =>
          have equal : entry.1 = key := by simpa using dropped
          rw [induction, equal]
          split <;> rfl

theorem isSome_lookup (key : String) (entries : List (String × β)) :
    (entries.lookup key).isSome ↔ key ∈ entries.map Prod.fst := by
  induction entries with
  | nil => simp
  | cons entry rest induction =>
      rw [lookup_entry, List.map_cons, List.mem_cons]
      split
      · next first => simp [first]
      · next different => rw [induction, or_iff_right different]

def empty : OrderedMap β := ⟨[], by simp⟩

instance : Inhabited (OrderedMap β) := ⟨empty⟩

def keys (map : OrderedMap β) : List String := map.entries.map Prod.fst

def values (map : OrderedMap β) : List β := map.entries.map Prod.snd

def size (map : OrderedMap β) : Nat := map.entries.length

def isEmpty (map : OrderedMap β) : Bool := map.entries.isEmpty

def get? (map : OrderedMap β) (key : String) : Option β :=
  map.entries.lookup key

def contains (map : OrderedMap β) (key : String) : Bool :=
  map.keys.contains key

/-- Write a value at a key, at its old place or else at the end. -/
def insert (map : OrderedMap β) (key : String) (value : β) : OrderedMap β :=
  ⟨put key value map.entries, nodup_put map.distinct⟩

@[simp] theorem get?_insert (map : OrderedMap β) (key other : String) (value : β) :
    (map.insert key value).get? other =
      if other = key then some value else map.get? other :=
  lookup_put key other value map.entries

theorem keys_insert (map : OrderedMap β) (key : String) (value : β) :
    (map.insert key value).keys =
      if key ∈ map.keys then map.keys else map.keys ++ [key] :=
  keys_put key value map.entries

/-- Take a key out; the others keep their order. -/
def erase (map : OrderedMap β) (key : String) : OrderedMap β where
  entries := map.entries.filter (fun entry => entry.1 != key)
  distinct := by
    exact map.distinct.sublist (List.filter_sublist.map Prod.fst)

@[simp] theorem get?_erase (map : OrderedMap β) (key other : String) :
    (map.erase key).get? other = if other = key then none else map.get? other :=
  lookup_filter_ne key other map.entries

theorem keys_erase (map : OrderedMap β) (key : String) :
    (map.erase key).keys = map.keys.filter (· != key) := by
  simp only [keys, erase, List.filter_map, Function.comp_def]

theorem contains_iff {map : OrderedMap β} {key : String} :
    map.contains key ↔ key ∈ map.keys := by
  simp [contains]

theorem isSome_get?_iff {map : OrderedMap β} {key : String} :
    (map.get? key).isSome ↔ key ∈ map.keys :=
  isSome_lookup key map.entries

/-- The map built by writing the entries one after the other. -/
def ofList (entries : List (String × β)) : OrderedMap β :=
  entries.foldl (fun map entry => map.insert entry.1 entry.2) empty

@[ext] theorem ext {first second : OrderedMap β} (same : first.entries = second.entries) :
    first = second := by
  cases first
  cases second
  simp_all

example : (ofList [("b", 1), ("a", 2), ("b", 3)]).entries = [("b", 3), ("a", 2)] := by
  decide

end OrderedMap

end LanguageWorker
