import LanguageWorker.Proofs.Checked.Arithmetic
import LanguageWorker.Proofs.Text.Bytes

namespace LanguageWorker.Snapshot

/-! Pieces of frozen texts, said in bytes. Two offsets are brought within the text and into order,
and unless one of them is inside a character, the piece between them is made of the bytes from
the one to the other. Pieces that meet at an offset can therefore be put together again. -/

variable (snapshot : Snapshot) (start stop : Nat)

/-- The bytes from the lower of two offsets to the upper one. -/
def bytesBetween : List UInt8 :=
  ((Text.bytesOf snapshot.text).drop (snapshot.lower start stop)).take
    (snapshot.upper start stop - snapshot.lower start stop)

/-- Neither of two offsets is inside a character. -/
def Clear : Prop :=
  ¬ Text.Inside snapshot.text.toList (snapshot.lower start stop) ∧
    ¬ Text.Inside snapshot.text.toList (snapshot.upper start stop)

/-- How the pieces of a snapshot are related to its bytes and to each other. -/
structure CutsBytes : Prop where
  length_eq : snapshot.length = (Text.bytesOf snapshot.text).length
  /-- Nothing but the inside of a character is in the way. -/
  none_iff : ∀ start stop, snapshot.getText? start stop = none ↔
    Text.Inside snapshot.text.toList (snapshot.lower start stop) ∨
      Text.Inside snapshot.text.toList (snapshot.upper start stop)
  /-- The bytes between two offsets that are clear are as many as the offsets are apart, they are
  the bytes of some text, and that text is the piece. -/
  some_of_clear : ∀ start stop, snapshot.Clear start stop →
    (snapshot.bytesBetween start stop).length =
        snapshot.upper start stop - snapshot.lower start stop ∧
      ∃ piece, String.fromUTF8? (snapshot.bytesBetween start stop).toByteArray = some piece ∧
        snapshot.getText? start stop = some piece
  symm : ∀ start stop, snapshot.getText? start stop = snapshot.getText? stop start
  whole : snapshot.getText? 0 snapshot.length = some snapshot.text
  /-- Pieces that meet make one piece. -/
  append : ∀ start middle stop first second, start ≤ middle → middle ≤ stop →
    snapshot.getText? start middle = some first → snapshot.getText? middle stop = some second →
    snapshot.getText? start stop = some (first ++ second)

theorem lower_le_upper : snapshot.lower start stop ≤ snapshot.upper start stop := by
  grind [Snapshot.lower, Snapshot.upper]

theorem upper_le_length : snapshot.upper start stop ≤ snapshot.length := Nat.min_le_right _ _

theorem lower_comm : snapshot.lower start stop = snapshot.lower stop start := by
  rw [lower, lower, Nat.min_comm start stop]

theorem upper_comm : snapshot.upper start stop = snapshot.upper stop start := by
  rw [upper, upper, Nat.max_comm start stop]

/-- There is a piece between two offsets just when both are at the edges of characters. -/
theorem exists_slice?_iff :
    (∃ piece, Text.slice? snapshot.text.toList (snapshot.lower start stop)
      (snapshot.upper start stop) = some piece) ↔ snapshot.Clear start stop := by
  have ordered := snapshot.lower_le_upper start stop
  have withinStop := snapshot.upper_le_length start stop
  have withinStart := Nat.le_trans ordered withinStop
  rw [Clear, ← Text.atEdge_iff_not_inside withinStart, ← Text.atEdge_iff_not_inside withinStop]
  constructor
  · intro cuts
    rcases cuts with ⟨piece, sliced⟩
    rcases Text.slice?_eq_some_iff.1 sliced with ⟨before, after, split, first, last⟩
    refine ⟨⟨before, piece ++ after, ?_, first⟩, ⟨before ++ piece, after, split, ?_⟩⟩
    · rw [split, List.append_assoc]
    · rw [Text.byteLength_append, last]
  · intro edges
    rcases edges.1.exists_piece edges.2 ordered with ⟨before, piece, after, described⟩
    exact ⟨piece, Text.slice?_eq_some_iff.2 ⟨before, after, described⟩⟩

theorem getText?_eq_none_iff : snapshot.getText? start stop = none ↔
    Text.Inside snapshot.text.toList (snapshot.lower start stop) ∨
      Text.Inside snapshot.text.toList (snapshot.upper start stop) := by
  rw [getText?_eq, Option.map_eq_none_iff, Option.eq_none_iff_forall_ne_some, ← not_exists,
    exists_slice?_iff, Clear, not_and_or, not_not, not_not]

/-- A piece is known by its bytes. -/
theorem getText?_eq_some_iff {piece : String} : snapshot.getText? start stop = some piece ↔
    snapshot.Clear start stop ∧ Text.bytesOf piece = snapshot.bytesBetween start stop := by
  have bytes {letters : List Char} (sliced : Text.slice? snapshot.text.toList
      (snapshot.lower start stop) (snapshot.upper start stop) = some letters) :
      Text.bytesOf (String.ofList letters) = snapshot.bytesBetween start stop := by
    rcases Text.slice?_eq_some_iff.1 sliced with ⟨before, after, split, first, last⟩
    have distance : snapshot.upper start stop - snapshot.lower start stop =
        Text.byteLength letters := by omega
    rw [bytesBetween, distance, ← first, Text.bytesOf_eq snapshot.text, split,
      Text.flatMap_utf8EncodeChar_piece, Text.bytesOf_ofList]
  rw [getText?_eq, Option.map_eq_some_iff, ← exists_slice?_iff]
  constructor
  · intro cuts
    rcases cuts with ⟨letters, sliced, rfl⟩
    exact ⟨⟨letters, sliced⟩, bytes sliced⟩
  · intro described
    rcases described with ⟨⟨letters, sliced⟩, same⟩
    exact ⟨letters, sliced, Text.bytesOf_injective ((bytes sliced).trans same.symm)⟩

theorem length_bytesBetween : (snapshot.bytesBetween start stop).length =
    snapshot.upper start stop - snapshot.lower start stop := by
  rw [bytesBetween, List.length_take, List.length_drop, Text.length_bytesOf]
  exact Nat.min_eq_left (Nat.sub_le_sub_right (snapshot.upper_le_length start stop) _)

variable {snapshot start stop}

theorem Clear.exists_getText? (clear : snapshot.Clear start stop) :
    ∃ piece, snapshot.getText? start stop = some piece := by
  apply Option.ne_none_iff_exists'.1
  rw [Ne, getText?_eq_none_iff, not_or]
  exact clear

theorem lower_of_le (ordered : start ≤ stop) :
    snapshot.lower start stop = min start snapshot.length := by
  rw [lower, Nat.min_eq_left ordered]

theorem upper_of_le (ordered : start ≤ stop) :
    snapshot.upper start stop = min stop snapshot.length := by
  rw [upper, Nat.max_eq_right ordered]

/-- Bytes up to an offset and from there on are bytes without a gap. -/
theorem bytesBetween_append {middle : Nat} (before : start ≤ middle) (behind : middle ≤ stop) :
    snapshot.bytesBetween start middle ++ snapshot.bytesBetween middle stop =
      snapshot.bytesBetween start stop := by
  have first : min start snapshot.length ≤ min middle snapshot.length := by omega
  have second : min middle snapshot.length ≤ min stop snapshot.length := by omega
  simp only [bytesBetween, lower_of_le before, upper_of_le before, lower_of_le behind,
    upper_of_le behind, lower_of_le (Nat.le_trans before behind),
    upper_of_le (Nat.le_trans before behind)]
  rw [← Nat.sub_add_sub_cancel second first, Nat.add_comm, List.take_add, List.drop_drop,
    Nat.add_sub_of_le first]

theorem Clear.trans {middle : Nat} (first : snapshot.Clear start middle)
    (second : snapshot.Clear middle stop) (before : start ≤ middle) (behind : middle ≤ stop) :
    snapshot.Clear start stop := by
  have ordered := Nat.le_trans before behind
  rw [Clear, lower_of_le ordered, upper_of_le ordered]
  rw [Clear, lower_of_le before] at first
  rw [Clear, upper_of_le behind] at second
  exact ⟨first.1, second.2⟩

/-- Whatever the text and the offsets, a piece is cut along the bytes. -/
theorem cutsBytes (snapshot : Snapshot) : snapshot.CutsBytes where
  length_eq := (Text.length_bytesOf snapshot.text).symm
  none_iff := snapshot.getText?_eq_none_iff
  some_of_clear := by
    intro start stop clear
    rcases clear.exists_getText? with ⟨piece, found⟩
    have bytes := ((snapshot.getText?_eq_some_iff start stop).1 found).2
    refine ⟨snapshot.length_bytesBetween start stop, piece, ?_, found⟩
    rw [← bytes, Text.fromUTF8?_bytesOf]
  symm := by
    intro start stop
    rw [getText?_eq, getText?_eq, lower_comm, upper_comm]
  whole := by
    have ends : snapshot.lower 0 snapshot.length = 0 ∧
        snapshot.upper 0 snapshot.length = snapshot.length := by
      simp [lower, upper]
    have all : Text.slice? snapshot.text.toList 0 snapshot.length = some snapshot.text.toList :=
      Text.slice?_eq_some_iff.2 ⟨[], [], by simp, rfl, Nat.zero_add _⟩
    rw [getText?_eq, ends.1, ends.2, all, Option.map_some, String.ofList_toList]
  append := by
    intro start middle stop first second before behind foundFirst foundSecond
    rcases (getText?_eq_some_iff _ _ _).1 foundFirst with ⟨clearFirst, bytesFirst⟩
    rcases (getText?_eq_some_iff _ _ _).1 foundSecond with ⟨clearSecond, bytesSecond⟩
    refine (getText?_eq_some_iff _ _ _).2 ⟨clearFirst.trans clearSecond before behind, ?_⟩
    rw [Text.bytesOf_append, bytesFirst, bytesSecond, bytesBetween_append before behind]

example : (Snapshot.mk "aéb").getText? 3 3 = some "" := by decide
example : (Snapshot.mk "aéb").getText? 7 4 = some "" := by decide

end LanguageWorker.Snapshot
