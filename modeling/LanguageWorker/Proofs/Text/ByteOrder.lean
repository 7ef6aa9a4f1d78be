import LanguageWorker.Proofs.Text.Bytes

namespace LanguageWorker.Text

/-! The order of texts is that of their bytes. -/

theorem toNat_val_lt (character : Char) : character.val.toNat < 0x110000 := by
  rcases character.valid with low | high
  · exact Nat.lt_trans low (by decide)
  · exact high.2

/-- The digits of a value to the base of 64, which is what bytes are made of. -/
theorem div_eq_div_64 (value : Nat) :
    value / 4096 = value / 64 / 64 ∧ value / 262144 = value / 64 / 64 / 64 := by
  omega

/-- The first byte in which two characters differ tells which one comes first. There is such a
byte for any two of them, so it does not matter what follows. -/
theorem utf8EncodeChar_append_lt {first second : Char} (before : first < second)
    (front back : List UInt8) :
    String.utf8EncodeChar first ++ front < String.utf8EncodeChar second ++ back := by
  have values : first.val.toNat < second.val.toNat := before
  have bound := toNat_val_lt second
  unfold String.utf8EncodeChar
  dsimp only
  generalize first.val.toNat = low at values
  generalize second.val.toNat = high at values bound
  rw [(div_eq_div_64 low).1, (div_eq_div_64 low).2, (div_eq_div_64 high).1, (div_eq_div_64 high).2]
  -- a case for each pair of lengths
  split_ifs <;>
    simp only [List.cons_append, List.cons_lt_cons_iff, UInt8.lt_iff_toNat_lt, ← UInt8.toNat_inj,
      UInt8.toNat_ofNat', List.nil_append] <;>
    omega

theorem flatMap_utf8EncodeChar_lt {first second : List Char} (before : first < second) :
    first.flatMap String.utf8EncodeChar < second.flatMap String.utf8EncodeChar := by
  induction before with
  | @nil character rest =>
      rw [List.flatMap_nil, List.flatMap_cons]
      cases bytes : String.utf8EncodeChar character with
      | nil => exact absurd bytes String.utf8EncodeChar_ne_nil
      | cons byte others => exact List.nil_lt_cons byte _
  | rel before => exact utf8EncodeChar_append_lt before _ _
  | cons _ induction => exact List.append_left_lt induction

theorem lt_iff_bytesOf_lt {first second : String} :
    first < second ↔ bytesOf first < bytesOf second := by
  have preserved {low high : String} (before : low < high) : bytesOf low < bytesOf high := by
    rw [bytesOf_eq, bytesOf_eq]
    exact flatMap_utf8EncodeChar_lt before
  refine ⟨preserved, fun before => ?_⟩
  by_contra notBefore
  have distinct : second ≠ first := by
    rintro rfl
    exact List.lt_irrefl _ before
  have after : second < first := Std.lt_of_le_of_ne (String.not_lt.1 notBefore) distinct
  exact List.lt_asymm before (preserved after)

end LanguageWorker.Text
