import LanguageWorker.Text.Bytes
import Mathlib.Data.List.Basic
import Mathlib.Logic.Function.Basic

namespace LanguageWorker.Text

/-! The bytes of a text and the offsets in them. An offset within a text is either at the edge of
a character or inside one, and between two edges stand the bytes of the characters there. -/

/-- The bytes of a text. -/
def bytesOf (text : String) : List UInt8 := text.toUTF8.data.toList

theorem bytesOf_eq (text : String) :
    bytesOf text = text.toList.flatMap String.utf8EncodeChar := by
  have encoded : text.toUTF8 = text.toList.utf8Encode := by
    rw [String.toUTF8_eq_toByteArray, String.utf8Encode_toList]
  rw [bytesOf, encoded, List.utf8Encode, List.data_toByteArray]

theorem bytesOf_injective : Function.Injective bytesOf := by
  intro first second same
  apply String.toByteArray_inj.1
  exact ByteArray.ext (Array.toList_inj.1 same)

theorem bytesOf_ofList (characters : List Char) :
    bytesOf (String.ofList characters) = characters.flatMap String.utf8EncodeChar := by
  rw [bytesOf_eq, String.toList_ofList]

theorem bytesOf_append (first second : String) :
    bytesOf (first ++ second) = bytesOf first ++ bytesOf second := by
  rw [bytesOf_eq, bytesOf_eq, bytesOf_eq, String.toList_append, List.flatMap_append]

theorem length_flatMap_utf8EncodeChar (characters : List Char) :
    (characters.flatMap String.utf8EncodeChar).length = byteLength characters := by
  induction characters with
  | nil => rfl
  | cons character rest induction =>
      rw [List.flatMap_cons, List.length_append, String.length_utf8EncodeChar, induction,
        byteLength_cons]

theorem length_bytesOf (text : String) : (bytesOf text).length = byteLength text.toList := by
  rw [bytesOf_eq, length_flatMap_utf8EncodeChar]

theorem fromUTF8?_toUTF8 (text : String) : String.fromUTF8? text.toUTF8 = some text := by
  rw [String.fromUTF8?, String.toUTF8_eq_toByteArray, dif_pos text.isValidUTF8]
  rfl

theorem fromUTF8?_bytesOf (text : String) :
    String.fromUTF8? (bytesOf text).toByteArray = some text := by
  have bytes : (bytesOf text).toByteArray = text.toUTF8 := by
    apply ByteArray.ext
    rw [List.data_toByteArray, bytesOf, Array.toArray_toList]
  rw [bytes, fromUTF8?_toUTF8]

/-! ## Edges of characters -/

/-- An offset in front of a character or behind the last one. -/
def AtEdge (text : List Char) (offset : Nat) : Prop :=
  ∃ before after, text = before ++ after ∧ byteLength before = offset

/-- An offset between two bytes of one character. -/
def Inside (text : List Char) (offset : Nat) : Prop :=
  ∃ before character after, text = before ++ character :: after ∧
    byteLength before < offset ∧ offset < byteLength before + character.utf8Size

theorem byteLength_eq_zero_iff {text : List Char} : byteLength text = 0 ↔ text = [] := by
  cases text with
  | nil => exact iff_of_true rfl rfl
  | cons character rest =>
      have positive := character.utf8Size_pos
      rw [byteLength_cons]
      exact iff_of_false (by omega) (List.cons_ne_nil _ _)

theorem byteLength_reverse (text : List Char) : byteLength text.reverse = byteLength text := by
  induction text with
  | nil => rfl
  | cons character rest induction =>
      rw [List.reverse_cons, byteLength_append, induction, Nat.add_comm]
      rfl

theorem AtEdge.le_byteLength {text : List Char} {offset : Nat} (edge : AtEdge text offset) :
    offset ≤ byteLength text := by
  rcases edge with ⟨before, after, rfl, rfl⟩
  rw [byteLength_append]
  exact Nat.le_add_right _ _

theorem Inside.le_byteLength {text : List Char} {offset : Nat} (inside : Inside text offset) :
    offset ≤ byteLength text := by
  rcases inside with ⟨before, character, after, rfl, _, ahead⟩
  rw [byteLength_append, byteLength_cons]
  omega

theorem AtEdge.not_inside {text : List Char} {offset : Nat} (edge : AtEdge text offset) :
    ¬ Inside text offset := by
  rcases edge with ⟨before, after, rfl, rfl⟩
  intro inside
  rcases inside with ⟨front, character, back, same, behind, ahead⟩
  rcases List.append_eq_append_iff.1 same with ⟨middle, rfl, _⟩ | ⟨middle, rfl, rest⟩
  · rw [byteLength_append] at behind
    omega
  · cases middle with
    | nil =>
        rw [List.append_nil] at behind
        omega
    | cons first others =>
        cases (List.cons.inj rest).1
        rw [byteLength_append, byteLength_cons] at ahead
        omega

theorem AtEdge.cons {text : List Char} {offset : Nat} (edge : AtEdge text offset)
    (character : Char) : AtEdge (character :: text) (character.utf8Size + offset) := by
  rcases edge with ⟨before, after, rfl, rfl⟩
  exact ⟨character :: before, after, rfl, rfl⟩

theorem Inside.cons {text : List Char} {offset : Nat} (inside : Inside text offset)
    (character : Char) : Inside (character :: text) (character.utf8Size + offset) := by
  rcases inside with ⟨before, middle, after, rfl, behind, ahead⟩
  refine ⟨character :: before, middle, after, rfl, ?_, ?_⟩
  · rw [byteLength_cons]
    omega
  · rw [byteLength_cons]
    omega

theorem atEdge_or_inside {text : List Char} {offset : Nat} (within : offset ≤ byteLength text) :
    AtEdge text offset ∨ Inside text offset := by
  induction text generalizing offset with
  | nil => exact .inl ⟨[], [], rfl, (Nat.le_zero.1 within).symm⟩
  | cons character rest induction =>
      rcases Nat.eq_zero_or_pos offset with rfl | positive
      · exact .inl ⟨[], character :: rest, rfl, rfl⟩
      · by_cases ahead : offset < character.utf8Size
        · refine .inr ⟨[], character, rest, rfl, positive, ?_⟩
          rw [byteLength_nil, Nat.zero_add]
          exact ahead
        · have later : offset - character.utf8Size ≤ byteLength rest := by
            rw [byteLength_cons] at within
            omega
          have sum : character.utf8Size + (offset - character.utf8Size) = offset :=
            Nat.add_sub_of_le (Nat.le_of_not_lt ahead)
          rw [← sum]
          exact (induction later).imp (·.cons character) (·.cons character)

theorem atEdge_iff_not_inside {text : List Char} {offset : Nat}
    (within : offset ≤ byteLength text) : AtEdge text offset ↔ ¬ Inside text offset :=
  ⟨AtEdge.not_inside, (atEdge_or_inside within).resolve_right⟩

/-- Between two edges of a text stands a piece of it. -/
theorem AtEdge.exists_piece {text : List Char} {start stop : Nat} (first : AtEdge text start)
    (last : AtEdge text stop) (ordered : start ≤ stop) :
    ∃ before piece after, text = before ++ piece ++ after ∧ byteLength before = start ∧
      byteLength before + byteLength piece = stop := by
  rcases first with ⟨before, behind, rfl, rfl⟩
  rcases last with ⟨front, after, same, rfl⟩
  rcases List.append_eq_append_iff.1 same with ⟨piece, rfl, rfl⟩ | ⟨piece, rfl, rfl⟩
  · exact ⟨before, piece, after, (List.append_assoc _ _ _).symm, rfl,
      (byteLength_append before piece).symm⟩
  · rw [byteLength_append] at ordered
    have nothing : piece = [] := byteLength_eq_zero_iff.1 (by omega)
    subst nothing
    exact ⟨front, [], behind, by simp, by simp, by simp⟩

/-- The bytes of a piece are those of the text from where it begins to where it ends. -/
theorem flatMap_utf8EncodeChar_piece (before piece after : List Char) :
    (((before ++ piece ++ after).flatMap String.utf8EncodeChar).drop (byteLength before)).take
      (byteLength piece) = piece.flatMap String.utf8EncodeChar := by
  rw [List.append_assoc, List.flatMap_append, List.flatMap_append,
    List.drop_left' (length_flatMap_utf8EncodeChar before),
    List.take_left' (length_flatMap_utf8EncodeChar piece)]

end LanguageWorker.Text
