import LanguageWorker.Proofs.Text.Bytes
import LanguageWorker.Text.Classes
import Mathlib.Data.List.TakeWhile

namespace LanguageWorker.Text

/-! Words of letters and digits. At an offset of a text two runs of them meet, one that reaches up
to the offset and one that goes on from there, and the longest of each kind make the word. What
stands directly in front of the word, if anything, is a character that is no part of it, and this
one may take more than one byte. -/

/-- The longest of the pieces of text with a property. -/
def Longest (property : List Char → Prop) (piece : List Char) : Prop :=
  property piece ∧ ∀ other, property other → other.length ≤ piece.length

/-- Letters and digits that reach up to the end of a text. -/
def RunUpTo (text run : List Char) : Prop :=
  run <:+ text ∧ ∀ character ∈ run, isAlphanumeric character

/-- Letters and digits with which a text begins. -/
def RunFrom (text run : List Char) : Prop :=
  run <+: text ∧ ∀ character ∈ run, isAlphanumeric character

/-- The word at an offset, which is at the edge of a character. -/
def WordAt (text : List Char) (offset : Nat) (word : List Char) : Prop :=
  ∃ before after left right, text = before ++ after ∧ byteLength before = offset ∧
    Longest (RunUpTo before) left ∧ Longest (RunFrom after) right ∧ word = left ++ right

/-- The last character in front of an offset that is neither a letter nor a digit takes more than
one byte. -/
def WideBefore (text : List Char) (offset : Nat) : Prop :=
  ∃ front character run after, text = front ++ character :: run ++ after ∧
    byteLength (front ++ character :: run) = offset ∧ ¬ isAlphanumeric character ∧
    (∀ other ∈ run, isAlphanumeric other) ∧ 1 < character.utf8Size

variable {before front run text : List Char} {character : Char} {offset : Nat}

theorem solid_or_exists_stop (before : List Char) :
    (∀ character ∈ before, isAlphanumeric character) ∨
      ∃ front character run, before = front ++ character :: run ∧ ¬ isAlphanumeric character ∧
        ∀ other ∈ run, isAlphanumeric other := by
  induction before with
  | nil => exact .inl (List.forall_mem_nil _)
  | cons first rest induction =>
      rcases induction with solid | ⟨front, character, run, rfl, stops, solid⟩
      · by_cases part : isAlphanumeric first
        · exact .inl (List.forall_mem_cons.2 ⟨part, solid⟩)
        · exact .inr ⟨[], first, rest, rfl, part, solid⟩
      · exact .inr ⟨first :: front, character, run, rfl, stops, solid⟩

theorem longest_runUpTo_of_solid (solid : ∀ character ∈ before, isAlphanumeric character) :
    Longest (RunUpTo before) before := by
  refine ⟨⟨List.suffix_rfl, solid⟩, ?_⟩
  intro other runs
  exact runs.1.length_le

/-- A longer run would have to pass over the character in front. -/
theorem longest_runUpTo_of_stop (stops : ¬ isAlphanumeric character)
    (solid : ∀ other ∈ run, isAlphanumeric other) :
    Longest (RunUpTo (front ++ character :: run)) run := by
  have tail : character :: run <:+ front ++ character :: run := List.suffix_append front _
  refine ⟨⟨(List.suffix_cons character run).trans tail, solid⟩, ?_⟩
  intro other runs
  by_contra longer
  have reaches : character :: run <:+ other :=
    List.suffix_of_suffix_length_le tail runs.1 (Nat.lt_of_not_le longer)
  exact stops (runs.2 character (reaches.mem List.mem_cons_self))

theorem longest_runFrom_takeWhile (after : List Char) :
    Longest (RunFrom after) (after.takeWhile isAlphanumeric) := by
  refine ⟨⟨List.takeWhile_prefix _, fun _ => List.mem_takeWhile_imp⟩, ?_⟩
  intro other runs
  rcases runs with ⟨⟨rest, rfl⟩, solid⟩
  rw [List.takeWhile_append_of_pos solid]
  exact (List.prefix_append other _).length_le

theorem WideBefore.atEdge (wide : WideBefore text offset) : AtEdge text offset := by
  rcases wide with ⟨front, character, run, after, split, here, _⟩
  exact ⟨front ++ character :: run, after, split, here⟩

end LanguageWorker.Text
