import LanguageWorker.Proofs.Json.Members
import LanguageWorker.Proofs.OrderedMap

namespace LanguageWorker.Json

/-! Objects written member by member. An object holds the last value of each key. As long as no
key is written twice, it holds just what was written, in whatever order that was. -/

open OrderedMap

/-- In an ordered object a key has one value. -/
theorem Ordered.value_unique {members : List (String × Json)} (ordered : Ordered members)
    {key : String} {value other : Json} (member : (key, value) ∈ members)
    (otherMember : (key, other) ∈ members) : value = other := by
  have same : (key, value) = (key, other) :=
    List.inj_on_of_nodup_map ordered.nodup_keys member otherMember rfl
  exact (Prod.mk.inj same).2

theorem mem_of_lookup {members : List (String × Json)} {key : String} {value : Json}
    (found : members.lookup key = some value) : (key, value) ∈ members := by
  rcases List.lookup_eq_some_iff.1 found with ⟨before, after, split, _⟩
  simp [split]

theorem lookup_eq_none_iff {members : List (String × Json)} {key : String} :
    members.lookup key = none ↔ ∀ value, (key, value) ∉ members := by
  rw [← Option.not_isSome_iff_eq_none, OrderedMap.isSome_lookup, List.mem_map]
  constructor
  · intro absent value listed
    exact absent ⟨(key, value), listed, rfl⟩
  · intro absent listed
    rcases listed with ⟨⟨_, value⟩, listed, rfl⟩
    exact absent value listed

/-- A member that is written takes the place of one with its key, and leaves the others. -/
theorem mem_putMember_iff {members : List (String × Json)} (ordered : Ordered members)
    {key name : String} {value item : Json} :
    (name, item) ∈ putMember key value members ↔
      (name, item) = (key, value) ∨ (name, item) ∈ members ∧ key ≠ name := by
  induction members with
  | nil => simp [putMember]
  | cons first rest induction =>
      rcases List.pairwise_cons.1 ordered with ⟨least, tail⟩
      unfold putMember
      split
      · next before =>
          have foreign : (name, item) ∈ first :: rest → key ≠ name := by
            intro listed same
            subst same
            rcases List.mem_cons.1 listed with rfl | later
            · exact String.lt_irrefl _ before
            · exact String.lt_asymm before (least _ later)
          rw [List.mem_cons, and_iff_left_of_imp foreign]
      · split
        · next same =>
            have foreign : (name, item) ∈ rest → key ≠ name := by
              intro later equal
              have behind : first.1 < name := least (name, item) later
              exact String.lt_irrefl name ((same.symm.trans equal) ▸ behind)
            have replaced : ¬ ((name, item) = first ∧ key ≠ name) := fun both =>
              both.2 (same.trans (congrArg Prod.fst both.1).symm)
            rw [List.mem_cons, List.mem_cons, or_and_right, or_iff_right replaced,
              and_iff_left_of_imp foreign]
        · next different =>
            have kept : (name, item) = first → key ≠ name := fun here same =>
              different (same.trans (congrArg Prod.fst here))
            rw [List.mem_cons, induction tail, List.mem_cons, or_and_right,
              and_iff_left_of_imp kept]
            exact or_left_comm

namespace Object

/-- Each key has the last value that was written to it. -/
theorem mem_ofMembers_iff {members : List (String × Json)} {key : String} {value : Json} :
    (key, value) ∈ (ofMembers members).members ↔ LastEntry members key value := by
  induction members using List.reverseRecOn with
  | nil => exact iff_of_false List.not_mem_nil not_lastEntry_nil
  | append_singleton members member induction =>
      have written : ofMembers (members ++ [member]) =
          (ofMembers members).insert member.1 member.2 := List.foldl_append
      rw [written, lastEntry_append_iff, lastEntry_singleton_iff, List.forall_mem_singleton,
        ← induction]
      exact mem_putMember_iff (ofMembers members).ordered

/-- Nothing gets into an object but what is written. -/
theorem mem_of_mem_ofMembers {members : List (String × Json)} {member : String × Json}
    (listed : member ∈ (ofMembers members).members) : member ∈ members :=
  (mem_ofMembers_iff.1 listed).mem

theorem ofMembers_eq_iff {members : List (String × Json)} {object : Object} :
    ofMembers members = object ↔
      ∀ key value, (key, value) ∈ object.members ↔ LastEntry members key value := by
  constructor
  · intro same
    subst same
    exact fun _ _ => mem_ofMembers_iff
  · intro described
    apply Object.ext
    apply (ofMembers members).ordered.eq_of_mem_iff object.ordered
    intro member
    exact mem_ofMembers_iff.trans (described member.1 member.2).symm

theorem get?_eq_none_iff {object : Object} {key : String} :
    object.get? key = none ↔ ∀ value, (key, value) ∉ object.members :=
  lookup_eq_none_iff

theorem members_ofMembers_perm {members : List (String × Json)}
    (distinct : (members.map Prod.fst).Nodup) : (ofMembers members).members.Perm members := by
  apply (List.perm_ext_iff_of_nodup (ofMembers members).ordered.nodup distinct.of_map).2
  intro member
  exact mem_ofMembers_iff.trans (lastEntry_iff_mem distinct)

theorem ofMembers_of_perm {members : List (String × Json)} {object : Object}
    (permuted : object.members.Perm members) : ofMembers members = object := by
  have distinct : (members.map Prod.fst).Nodup :=
    (permuted.map Prod.fst).nodup_iff.1 object.ordered.nodup_keys
  apply Object.ext
  apply (ofMembers members).ordered.eq_of_mem_iff object.ordered
  intro member
  exact ((members_ofMembers_perm distinct).trans permuted.symm).mem_iff

/-- Members that are in order already stay as they are. -/
theorem ofMembers_members (object : Object) : ofMembers object.members = object :=
  ofMembers_of_perm (.refl _)

theorem ofMembers_of_mem_iff {members : List (String × Json)} (ordered : Ordered members)
    {object : Object} (same : ∀ member, member ∈ members ↔ member ∈ object.members) :
    ofMembers members = object := by
  rw [ordered.eq_of_mem_iff object.ordered same, ofMembers_members]

end Object

theorem ofMembers_of_perm {members sorted : List (String × Json)} (ordered : Ordered sorted)
    (permuted : sorted.Perm members) : ofMembers members = .object sorted := by
  have written : Object.ofMembers members = ⟨sorted, ordered⟩ := Object.ofMembers_of_perm permuted
  exact congrArg Object.toJson written

theorem hasFields_ofMembers (members : List (String × Json)) :
    (ofMembers members).HasFields (LastEntry members) :=
  ⟨_, rfl, (Object.ofMembers members).ordered, fun _ _ => Object.mem_ofMembers_iff⟩

theorem lastEntry_member?_iff {name key : String} {written : Option Json} {value : Json} :
    LastEntry (member? name written) key value ↔ key = name ∧ written = some value := by
  have distinct : ((member? name written).map Prod.fst).Nodup := by
    cases written with
    | none => exact List.nodup_nil
    | some item => exact List.nodup_singleton name
  rw [lastEntry_iff_mem distinct, mem_member?_iff]

/-- An object with a member for each entry of a map. -/
def HasEntries {β : Type} (item : Json) (map : OrderedMap β) (describes : β → Json → Prop) : Prop :=
  item.HasFields fun key value => ∃ held, (key, held) ∈ map.entries ∧ describes held value

theorem hasEntries_ofMembers {β : Type} (map : OrderedMap β) (write : β → Json) :
    (ofMembers (map.entries.map fun (key, held) => (key, write held))).HasEntries map
      fun held item => item = write held := by
  have distinct : ((map.entries.map fun (key, held) => (key, write held)).map Prod.fst).Nodup := by
    rw [List.map_map]
    exact map.distinct
  apply (hasFields_ofMembers _).congr
  intro key value
  rw [lastEntry_iff_mem distinct, List.mem_map]
  constructor
  · intro listed
    rcases listed with ⟨entry, listed, same⟩
    cases same
    exact ⟨entry.2, listed, rfl⟩
  · intro described
    rcases described with ⟨held, listed, rfl⟩
    exact ⟨(key, held), listed, rfl⟩

end LanguageWorker.Json
