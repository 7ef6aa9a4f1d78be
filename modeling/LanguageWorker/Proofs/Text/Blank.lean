import LanguageWorker.Text.Classes
import Mathlib.Data.List.TakeWhile

namespace LanguageWorker.Text

/-! What is left of a text without the blanks around it. It is fixed by having no blank at either
end, and neither more blanks around the text nor the case of its letters make a difference. -/

/-- A text, and what is left of it without the blanks around it. -/
structure Trimmed (text core : List Char) : Prop where
  around : ∃ before after, text = before ++ core ++ after ∧
    (∀ character ∈ before, isBlank character) ∧ ∀ character ∈ after, isBlank character
  first : ∀ character ∈ core.head?, ¬ isBlank character
  last : ∀ character ∈ core.getLast?, ¬ isBlank character

theorem not_isBlank_head?_dropWhile (text : List Char) :
    ∀ character ∈ (text.dropWhile isBlank).head?, ¬ isBlank character := by
  intro character first
  have stops := List.head?_dropWhile_not isBlank text
  rw [Option.mem_def.1 first] at stops
  exact ne_true_of_eq_false stops

theorem dropWhile_isBlank_eq_self {text : List Char}
    (first : ∀ character ∈ text.head?, ¬ isBlank character) : text.dropWhile isBlank = text := by
  cases text with
  | nil => rfl
  | cons character rest => exact List.dropWhile_cons_of_neg (first character rfl)

theorem trimmed_trim (text : List Char) : Trimmed text (trim text) := by
  have front : text.takeWhile isBlank ++ text.dropWhile isBlank = text :=
    List.takeWhile_append_dropWhile
  have back : trim text ++ ((text.dropWhile isBlank).reverse.takeWhile isBlank).reverse =
      text.dropWhile isBlank := by
    rw [trim, ← List.reverse_append, List.takeWhile_append_dropWhile, List.reverse_reverse]
  constructor
  · refine ⟨text.takeWhile isBlank,
      ((text.dropWhile isBlank).reverse.takeWhile isBlank).reverse, ?_, ?_, ?_⟩
    · rw [List.append_assoc, back, front]
    · intro character listed
      exact List.mem_takeWhile_imp listed
    · intro character listed
      exact List.mem_takeWhile_imp (List.mem_reverse.1 listed)
  · intro character first
    apply not_isBlank_head?_dropWhile text
    rw [← back, List.head?_append, Option.mem_def.1 first]
    rfl
  · intro character last
    rw [trim, List.getLast?_reverse] at last
    exact not_isBlank_head?_dropWhile _ character last

theorem mem_of_mem_trim {text : List Char} {character : Char} (listed : character ∈ trim text) :
    character ∈ text := by
  rcases (trimmed_trim text).around with ⟨before, after, split, _⟩
  rw [split]
  exact List.mem_append_left after (List.mem_append_right before listed)

/-- Only one text is left without the blanks. -/
theorem Trimmed.eq_trim {text core : List Char} (trimmed : Trimmed text core) :
    trim text = core := by
  rcases trimmed.around with ⟨before, after, rfl, blankBefore, blankAfter⟩
  have front : (before ++ core ++ after).dropWhile isBlank = (core ++ after).dropWhile isBlank := by
    rw [List.append_assoc, List.dropWhile_append_of_pos blankBefore]
  rw [trim, front]
  cases core with
  | nil =>
      have nothing : after.dropWhile isBlank = [] := List.dropWhile_eq_nil_iff.2 blankAfter
      rw [List.nil_append, nothing]
      rfl
  | cons character rest =>
      have blankBehind : ∀ other ∈ after.reverse, isBlank other := fun other listed =>
        blankAfter other (List.mem_reverse.1 listed)
      have notBlank : ∀ other ∈ (character :: rest).reverse.head?, ¬ isBlank other := by
        rw [List.head?_reverse]
        exact trimmed.last
      rw [List.cons_append, List.dropWhile_cons_of_neg (trimmed.first character rfl),
        ← List.cons_append, List.reverse_append, List.dropWhile_append_of_pos blankBehind,
        dropWhile_isBlank_eq_self notBlank, List.reverse_reverse]

theorem trim_eq_iff {text core : List Char} : trim text = core ↔ Trimmed text core := by
  constructor
  · intro same
    exact same ▸ trimmed_trim text
  · exact Trimmed.eq_trim

/-- Blanks around a text are no part of what is left of it. -/
theorem trim_around {before after : List Char}
    (blankBefore : ∀ character ∈ before, isBlank character)
    (blankAfter : ∀ character ∈ after, isBlank character) (text : List Char) :
    trim (before ++ text ++ after) = trim text := by
  have trimmed := trimmed_trim text
  rcases trimmed.around with ⟨front, back, same, blankFront, blankBack⟩
  refine trim_eq_iff.2 ⟨⟨before ++ front, back ++ after, ?_, ?_, ?_⟩, trimmed.first, trimmed.last⟩
  · calc
      before ++ text ++ after = before ++ (front ++ trim text ++ back) ++ after :=
        congrArg (before ++ · ++ after) same
      _ = before ++ front ++ trim text ++ (back ++ after) := by simp only [List.append_assoc]
  · exact List.forall_mem_append.2 ⟨blankBefore, blankFront⟩
  · exact List.forall_mem_append.2 ⟨blankBack, blankAfter⟩

theorem trim_of_not_isBlank {text : List Char}
    (solid : ∀ character ∈ text, ¬ isBlank character) : trim text = text := by
  refine Trimmed.eq_trim ⟨⟨[], [], ?_, List.forall_mem_nil _, List.forall_mem_nil _⟩, ?_, ?_⟩
  · rw [List.nil_append, List.append_nil]
  · exact fun character first => solid character (List.mem_of_mem_head? first)
  · exact fun character last => solid character (List.mem_of_mem_getLast? last)

theorem not_isBlank_of_isDigit {character : Char} (digit : character.isDigit) :
    ¬ isBlank character := by
  simp only [Char.isDigit, Bool.and_eq_true, decide_eq_true_eq, UInt32.le_iff_toNat_le] at digit
  have low : 0x30 ≤ character.toNat := digit.1
  have high : character.toNat ≤ 0x39 := digit.2
  simp only [isBlank, Bool.or_eq_true, Bool.and_eq_true, decide_eq_true_eq]
  omega

/-- Letters of ASCII stand between the blanks, whatever their case. -/
theorem isBlank_toLower (character : Char) : isBlank character.toLower = isBlank character := by
  have between {other : Char} (low : 0x41 ≤ other.toNat) (high : other.toNat ≤ 0x7A) :
      isBlank other = false := by
    simp only [isBlank, Bool.or_eq_false_iff, Bool.and_eq_false_iff, decide_eq_false_iff_not]
    omega
  unfold Char.toLower
  split
  · next upper =>
    have low : 0x41 ≤ character.toNat := UInt32.le_iff_toNat_le.1 upper.1
    have high : character.toNat ≤ 0x5A := UInt32.le_iff_toNat_le.1 upper.2
    have lowered (valid : (character.val + ('a'.val - 'A'.val)).isValidChar) :
        (Char.mk (character.val + ('a'.val - 'A'.val)) valid).toNat = character.toNat + 0x20 := by
      have offset : ('a'.val - 'A'.val).toNat = 0x20 := by decide
      refine (UInt32.toNat_add _ _).trans ?_
      rw [offset]
      exact Nat.mod_eq_of_lt (Nat.lt_of_le_of_lt (Nat.add_le_add_right high _) (by decide))
    rw [between low (by omega)]
    exact between (by rw [lowered]; omega) (by rw [lowered]; omega)
  · rfl

theorem trim_map_toLower (text : List Char) :
    trim (text.map Char.toLower) = (trim text).map Char.toLower := by
  have kept : isBlank ∘ Char.toLower = isBlank := funext isBlank_toLower
  simp only [trim, List.dropWhile_map, ← List.map_reverse, kept]

end LanguageWorker.Text
