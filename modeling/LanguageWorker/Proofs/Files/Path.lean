import LanguageWorker.Files.Path
import Mathlib.Data.List.Basic

namespace LanguageWorker.Path

/-! Paths that are put together from others, and how the names at their ends end. -/

variable {folder name path extension : String}

/-! ## Parts -/

theorem split_ne_nil (mark : Char) (text : List Char) : split mark text ≠ [] := by
  fun_induction split mark text <;> exact List.cons_ne_nil _ _

theorem split_append (mark : Char) (front back : List Char) :
    split mark (front ++ mark :: back) = split mark front ++ split mark back := by
  induction front with
  | nil => exact if_pos rfl
  | cons character rest induction =>
      rw [List.cons_append, split, split, induction]
      split
      · rfl
      · cases pieces : split mark rest with
        | nil => exact absurd pieces (split_ne_nil mark rest)
        | cons piece pieces => rfl

theorem split_of_not_mem {mark : Char} {text : List Char} (absent : mark ∉ text) :
    split mark text = [text] := by
  induction text with
  | nil => rfl
  | cons character rest induction =>
      rw [List.mem_cons, not_or] at absent
      rw [split, if_neg (Ne.symm absent.1), induction absent.2]

/-- A folder and a name are joined by one slash, which the folder may bring along. -/
theorem exists_toList_join (filled : folder ≠ "") (name : String) :
    ∃ front, (join folder name).toList = front ++ '/' :: name.toList ∧
      (folder.toList = front ∨ folder.toList = front ++ ['/']) := by
  have notEmpty : folder.isEmpty = false := by simpa using filled
  rw [join, notEmpty, Bool.false_or]
  split
  · next slash =>
      rw [String.endsWith, String.Slice.endsWith_string_iff, String.copy_toSlice] at slash
      rcases slash with ⟨front, split⟩
      refine ⟨front, ?_, .inr split.symm⟩
      rw [String.toList_append, ← split, List.append_assoc]
      rfl
  · refine ⟨folder.toList, ?_, .inl rfl⟩
    rw [String.toList_append, String.toList_append, List.append_assoc]
    rfl

end LanguageWorker.Path
