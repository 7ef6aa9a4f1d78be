import LanguageWorker.Text.Bytes

namespace LanguageWorker.Text

/-! Searching for a fixed, non-empty word from left to right. A word that has
been found is stepped over whole before the search goes on, so two findings
never overlap. -/

/-- The byte offsets at which `word` is found, once `skip` more characters
have been passed. `offset` is where the remaining text begins. -/
def occurrencesFrom (word : List Char) : (skip offset : Nat) → List Char → List Nat
  | _, _, [] => []
  | skip + 1, offset, character :: rest =>
      occurrencesFrom word skip (offset + character.utf8Size) rest
  | 0, offset, character :: rest =>
      if word.isPrefixOf (character :: rest) then
        offset :: occurrencesFrom word (word.length - 1) (offset + character.utf8Size) rest
      else
        occurrencesFrom word 0 (offset + character.utf8Size) rest

/-- The byte offsets at which `word` is found in a text. -/
def occurrences (word text : List Char) : List Nat :=
  occurrencesFrom word 0 0 text

/-- A text without the findings of `word`, once `skip` more characters have
been dropped. -/
def withoutFrom (word : List Char) : (skip : Nat) → List Char → List Char
  | _, [] => []
  | skip + 1, _ :: rest => withoutFrom word skip rest
  | 0, character :: rest =>
      if word.isPrefixOf (character :: rest) then
        withoutFrom word (word.length - 1) rest
      else
        character :: withoutFrom word 0 rest

/-- A text with every finding of `word` taken out. -/
def without (word text : List Char) : List Char :=
  withoutFrom word 0 text

example : occurrences "aa".toList "aaaxé aa".toList = [0, 7] := by decide
example : without "ab".toList "xababay".toList = "xay".toList := by decide

/-- The part of a text behind the last `mark`, when there is a mark. -/
def behindLast? (mark : Char) : List Char → Option (List Char)
  | [] => none
  | character :: rest =>
      match behindLast? mark rest with
      | some tail => some tail
      | none => if character = mark then some rest else none

example : behindLast? '.' "a.b.ts".toList = some ['t', 's'] := by decide
example : behindLast? '.' "ts".toList = none := by decide

theorem behindLast?_eq_none_iff {mark : Char} {text : List Char} :
    behindLast? mark text = none ↔ mark ∉ text := by
  induction text with
  | nil => simp [behindLast?]
  | cons character rest induction =>
      cases found : behindLast? mark rest with
      | some tail =>
          have present : mark ∈ rest := by
            simpa [found] using mt induction.2
          simp [behindLast?, found, present]
      | none =>
          have absent := induction.1 found
          by_cases equal : character = mark
          · simp [behindLast?, found, equal]
          · simp [behindLast?, found, equal, absent, Ne.symm equal]

theorem behindLast?_append {mark : Char} {tail : List Char} (absent : mark ∉ tail)
    (front : List Char) : behindLast? mark (front ++ mark :: tail) = some tail := by
  induction front with
  | nil =>
      rw [List.nil_append, behindLast?, behindLast?_eq_none_iff.2 absent]
      exact if_pos rfl
  | cons character rest induction => rw [List.cons_append, behindLast?, induction]

theorem behindLast?_eq_some_iff {mark : Char} {text tail : List Char} :
    behindLast? mark text = some tail ↔ mark ∉ tail ∧ ∃ front, text = front ++ mark :: tail := by
  constructor
  · intro found
    fun_induction behindLast? mark text with
    | case1 => cases found
    | case2 character rest later there induction =>
        cases found
        rcases induction there with ⟨absent, front, rfl⟩
        exact ⟨absent, character :: front, rfl⟩
    | case3 rest missing induction =>
        cases found
        exact ⟨behindLast?_eq_none_iff.1 missing, [], rfl⟩
    | case4 => cases found
  · intro described
    rcases described with ⟨absent, front, rfl⟩
    exact behindLast?_append absent front

theorem behindLast?_append_of_mem {mark : Char} {text : List Char} (present : mark ∈ text)
    (front : List Char) : behindLast? mark (front ++ text) = behindLast? mark text := by
  have marked : behindLast? mark text ≠ none := mt behindLast?_eq_none_iff.1 (not_not_intro present)
  rcases Option.ne_none_iff_exists'.1 marked with ⟨tail, found⟩
  rcases behindLast?_eq_some_iff.1 found with ⟨absent, before, rfl⟩
  rw [found, ← List.append_assoc, behindLast?_append absent]

end LanguageWorker.Text
