import LanguageWorker.Proofs.Text.Bytes
import LanguageWorker.Text.Percent
import Mathlib.Data.List.Basic
import Mathlib.Logic.Function.Basic

namespace LanguageWorker.Text

/-! Percent-encoding byte by byte. A byte stands for itself or for three characters that begin
with a percent sign, and the percent sign does not stand for itself. So the code of a byte
can be told from the characters behind it, and no two paths are encoded alike. -/

/-- What stands for a byte in a URI. -/
def percentUnit (byte : UInt8) : List Char :=
  if needsPercent (Char.ofNat byte.toNat) then percentByte byte else [Char.ofNat byte.toNat]

/-- Bytes of a path, whether or not they make a text, as a URI holds them. -/
def percentBytes (bytes : List UInt8) : List Char := bytes.flatMap percentUnit

/-! ## The code of a byte -/

theorem upperHexDigit_inj {first second : Nat} (small : first < 16) (smallToo : second < 16)
    (same : upperHexDigit first = upperHexDigit second) : first = second := by
  have distinct : ∀ first second : Fin 16,
      upperHexDigit first = upperHexDigit second → first = second := by decide
  exact congrArg Fin.val (distinct ⟨first, small⟩ ⟨second, smallToo⟩ same)

theorem percentByte_inj {first second : UInt8} (same : percentByte first = percentByte second) :
    first = second := by
  have bounded := first.toNat_lt
  have boundedToo := second.toNat_lt
  simp only [percentByte, List.cons.injEq, and_true, true_and] at same
  have high := upperHexDigit_inj (by omega) (by omega) same.1
  have low := upperHexDigit_inj (by omega) (by omega) same.2
  apply UInt8.toNat_inj.1
  omega

theorem needsPercent_percent : needsPercent '%' = true := by decide

theorem toNat_ofNat_byte (byte : UInt8) : (Char.ofNat byte.toNat).toNat = byte.toNat := by
  have bounded := byte.toNat_lt
  have valid : byte.toNat.isValidChar := .inl (by omega)
  rw [Char.ofNat, dif_pos valid]
  rfl

/-- The code of a byte can be told from what follows it. -/
theorem percentUnit_prefix {first second : UInt8} {rest other : List Char}
    (same : percentUnit first ++ rest = percentUnit second ++ other) :
    first = second ∧ rest = other := by
  have plain {byte : UInt8} (plain : ¬ needsPercent (Char.ofNat byte.toNat)) :
      Char.ofNat byte.toNat ≠ '%' := fun percent => plain (percent ▸ needsPercent_percent)
  unfold percentUnit at same
  split at same
  · split at same
    · have codes := List.append_inj same rfl
      exact ⟨percentByte_inj codes.1, codes.2⟩
    · next plainToo => exact absurd (List.cons.inj same).1.symm (plain plainToo)
  · next plainHere =>
      split at same
      · exact absurd (List.cons.inj same).1 (plain plainHere)
      · have characters := List.cons.inj same
        refine ⟨?_, characters.2⟩
        rw [← UInt8.toNat_inj, ← toNat_ofNat_byte first, ← toNat_ofNat_byte second, characters.1]

theorem percentUnit_ne_nil (byte : UInt8) : percentUnit byte ≠ [] := by
  unfold percentUnit
  split
  · exact List.cons_ne_nil _ _
  · exact List.cons_ne_nil _ _

theorem percentBytes_injective : Function.Injective percentBytes := by
  intro first second same
  induction first generalizing second with
  | nil =>
      cases second with
      | nil => rfl
      | cons byte rest =>
          exact absurd (List.append_eq_nil_iff.1 same.symm).1 (percentUnit_ne_nil byte)
  | cons byte rest induction =>
      cases second with
      | nil => exact absurd (List.append_eq_nil_iff.1 same).1 (percentUnit_ne_nil byte)
      | cons other others =>
          rcases percentUnit_prefix same with ⟨rfl, later⟩
          rw [induction later]

/-! ## Texts -/

theorem utf8EncodeChar_of_ascii {character : Char} (ascii : character.toNat ≤ 0x7F) :
    String.utf8EncodeChar character = [UInt8.ofNat character.toNat] :=
  if_pos ascii

/-- The bytes of a character beyond ASCII are beyond it too. -/
theorem le_of_mem_utf8EncodeChar {character : Char} (beyond : ¬ character.toNat ≤ 0x7F)
    {byte : UInt8} (listed : byte ∈ String.utf8EncodeChar character) : 0x80 ≤ byte.toNat := by
  have sum {value : Nat} (large : 0x80 ≤ value) (small : value < UInt8.size) :
      0x80 ≤ (UInt8.ofNat value).toNat := by
    rw [UInt8.toNat_ofNat_of_lt' small]
    exact large
  have size : UInt8.size = 0x100 := rfl
  unfold String.utf8EncodeChar at listed
  rw [if_neg (show ¬ character.val.toNat ≤ 0x7F from beyond)] at listed
  split at listed
  · simp only [List.mem_cons, List.not_mem_nil, or_false] at listed
    rcases listed with rfl | rfl
    all_goals exact sum (by omega) (by omega)
  · split at listed
    · simp only [List.mem_cons, List.not_mem_nil, or_false] at listed
      rcases listed with rfl | rfl | rfl
      all_goals exact sum (by omega) (by omega)
    · simp only [List.mem_cons, List.not_mem_nil, or_false] at listed
      rcases listed with rfl | rfl | rfl | rfl
      all_goals exact sum (by omega) (by omega)

theorem needsPercent_of_beyond {character : Char} (beyond : 0x7F ≤ character.toNat) :
    needsPercent character = true := by
  simp [needsPercent, beyond]

theorem flatMap_percentUnit_utf8EncodeChar (character : Char) :
    (String.utf8EncodeChar character).flatMap percentUnit =
      if needsPercent character then (String.utf8EncodeChar character).flatMap percentByte
      else [character] := by
  by_cases ascii : character.toNat ≤ 0x7F
  · have byte : (UInt8.ofNat character.toNat).toNat = character.toNat :=
      UInt8.toNat_ofNat_of_lt' (Nat.lt_of_le_of_lt ascii (by decide))
    rw [utf8EncodeChar_of_ascii ascii, List.flatMap_singleton, List.flatMap_singleton,
      percentUnit, byte, Char.ofNat_toNat]
  · rw [if_pos (needsPercent_of_beyond (by omega))]
    apply List.flatMap_congr
    intro byte listed
    have large := le_of_mem_utf8EncodeChar ascii listed
    have needed : needsPercent (Char.ofNat byte.toNat) :=
      needsPercent_of_beyond (by rw [toNat_ofNat_byte]; omega)
    rw [percentUnit, if_pos needed]

/-- Encoding a path is encoding its bytes, one after the other. -/
theorem percentEncoded_eq (path : String) :
    percentEncoded path = String.ofList (percentBytes (bytesOf path)) := by
  rw [percentEncoded, percentBytes, bytesOf_eq, List.flatMap_assoc]
  simp only [flatMap_percentUnit_utf8EncodeChar]

theorem percentEncoded_injective : Function.Injective percentEncoded := by
  intro first second same
  rw [percentEncoded_eq, percentEncoded_eq] at same
  exact bytesOf_injective (percentBytes_injective (String.ofList_injective same))

theorem needsPercent_upperHexDigit {digit : Nat} (small : digit < 16) :
    needsPercent (upperHexDigit digit) = false := by
  have plain : ∀ digit : Fin 16, needsPercent (upperHexDigit digit) = false := by decide
  exact plain ⟨digit, small⟩

/-- Nothing is left in an encoded path that would have to be encoded, but for percent signs. -/
theorem plain_of_mem_percentEncoded {path : String} {character : Char}
    (listed : character ∈ (percentEncoded path).toList) :
    character = '%' ∨ needsPercent character = false := by
  rw [percentEncoded, String.toList_ofList, List.mem_flatMap] at listed
  rcases listed with ⟨original, _, here⟩
  split at here
  · rcases List.mem_flatMap.1 here with ⟨byte, _, coded⟩
    have bounded := byte.toNat_lt
    simp only [percentByte, List.mem_cons, List.not_mem_nil, or_false] at coded
    rcases coded with rfl | rfl | rfl
    · exact .inl rfl
    · exact .inr (needsPercent_upperHexDigit (by omega))
    · exact .inr (needsPercent_upperHexDigit (by omega))
  · next plain =>
      rw [List.mem_singleton.1 here]
      exact .inr (Bool.eq_false_iff.2 plain)

end LanguageWorker.Text
