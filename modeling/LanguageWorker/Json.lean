import LanguageWorker.Binary64

namespace LanguageWorker

/-- A number as it was written: a whole number without point and exponent that
fits in 64 bits, or else a float. -/
inductive Json.Number where
  | integer (value : Int)
  | float (value : Binary64)
  deriving DecidableEq, Repr

/-- A value carried through without being looked into. -/
inductive Json where
  | null
  | boolean (value : Bool)
  | number (value : Json.Number)
  | string (value : String)
  | array (items : List Json)
  | object (members : List (String × Json))
  deriving Repr, Inhabited

namespace Json

/-! Objects hold their members sorted by key, each key once. Writing members
one after the other therefore keeps the last value of a repeated key. -/

/-- Members in strictly increasing order of their keys. -/
def Ordered (members : List (String × Json)) : Prop :=
  members.Pairwise fun first second => first.1 < second.1

/-- Write a member at its place. -/
def putMember (key : String) (value : Json) : List (String × Json) → List (String × Json)
  | [] => [(key, value)]
  | member :: rest =>
      if key < member.1 then (key, value) :: member :: rest
      else if key = member.1 then (key, value) :: rest
      else member :: putMember key value rest

theorem key_mem_putMember {key other : String} {value : Json}
    {members : List (String × Json)} :
    other ∈ (putMember key value members).map Prod.fst ↔
      other = key ∨ other ∈ members.map Prod.fst := by
  induction members with
  | nil => simp [putMember]
  | cons member rest induction =>
      unfold putMember
      split
      · simp
      · split
        · next equal => simp [equal]
        · simp only [List.map_cons, List.mem_cons, induction]
          exact or_left_comm

theorem ordered_putMember {key : String} {value : Json} {members : List (String × Json)}
    (ordered : Ordered members) : Ordered (putMember key value members) := by
  induction members with
  | nil => simp [putMember, Ordered]
  | cons member rest induction =>
      obtain ⟨least, tail⟩ := List.pairwise_cons.1 ordered
      unfold putMember
      split
      · next before =>
          refine List.pairwise_cons.2 ⟨?_, ordered⟩
          intro other present
          rcases List.mem_cons.1 present with rfl | later
          · exact before
          · exact String.lt_trans before (least other later)
      · split
        · next equal =>
            refine List.pairwise_cons.2 ⟨?_, tail⟩
            intro other later
            exact equal ▸ least other later
        · next notBefore different =>
            refine List.pairwise_cons.2 ⟨?_, induction tail⟩
            intro other present
            have listed : other.1 ∈ (putMember key value rest).map Prod.fst :=
              List.mem_map_of_mem present
            rcases key_mem_putMember.1 listed with equal | later
            · rw [equal]
              exact Std.lt_of_le_of_ne (String.not_lt.1 notBefore) (Ne.symm different)
            · obtain ⟨entry, entryLater, sameKey⟩ := List.mem_map.1 later
              rw [← sameKey]
              exact least entry entryLater

/-- The members of an object, ordered by key. -/
structure Object where
  members : List (String × Json)
  ordered : Ordered members

namespace Object

def empty : Object := ⟨[], List.Pairwise.nil⟩

instance : Inhabited Object := ⟨empty⟩

@[ext] theorem ext {first second : Object} (same : first.members = second.members) :
    first = second := by
  cases first
  cases second
  simp_all

def isEmpty (object : Object) : Bool := object.members.isEmpty

def get? (object : Object) (key : String) : Option Json := object.members.lookup key

def contains (object : Object) (key : String) : Bool :=
  object.members.any fun member => member.1 == key

def insert (object : Object) (key : String) (value : Json) : Object :=
  ⟨putMember key value object.members, ordered_putMember object.ordered⟩

/-- The object written by some members, one after the other. -/
def ofMembers (members : List (String × Json)) : Object :=
  members.foldl (fun object member => object.insert member.1 member.2) empty

def toJson (object : Object) : Json := .object object.members

end Object

/-- The object that holds the given members. -/
def ofMembers (members : List (String × Json)) : Json :=
  (Object.ofMembers members).toJson

def ofNat (number : Nat) : Json := .number (.integer number)

def ofWord (word : UInt32) : Json := ofNat word.toNat

/-- A member that is written only when there is something to write. -/
def member? (key : String) (value : Option Json) : List (String × Json) :=
  match value with
  | none => []
  | some value => [(key, value)]

/-- Absent things that have a place of their own are written as null. -/
def orNull (value : Option Json) : Json := value.getD .null

end Json

end LanguageWorker
