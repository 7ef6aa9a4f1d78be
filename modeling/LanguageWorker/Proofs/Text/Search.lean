import LanguageWorker.Proofs.Text.ByteOrder
import LanguageWorker.Text.Search

namespace LanguageWorker.Text

/-! Findings of a word in a text. A search goes on behind a word that it has found, so it may
pass over another place of the word that begins within. This cannot happen to a word no ending of
which is a beginning of it: such a word is found at all places where its bytes stand, and these
are at the edges of characters. -/

/-- No part behind the beginning of a word begins the word as well. -/
def Unbordered (word : List Char) : Prop :=
  word ≠ [] ∧ ∀ count < word.length, 0 < count → ¬ word.drop count <+: word

instance (word : List Char) : Decidable (Unbordered word) := inferInstanceAs (Decidable (_ ∧ _))

/-- The characters of a word stand at an offset of a text. -/
def StandsAt (word text : List Char) (place : Nat) : Prop :=
  ∃ before after, text = before ++ word ++ after ∧ byteLength before = place

/-- The bytes of a word stand at an offset of a text. -/
def OccursAt (word text : String) (place : Nat) : Prop :=
  bytesOf word <+: (bytesOf text).drop place

instance (word text : String) (place : Nat) : Decidable (OccursAt word text place) :=
  inferInstanceAs (Decidable (_ <+: _))

/-- The word stands at a place of a text that begins at `offset`, behind `skip` characters at
least. -/
def StandsBehind (word : List Char) (skip offset : Nat) (text : List Char) (place : Nat) : Prop :=
  ∃ before after, text = before ++ word ++ after ∧ skip ≤ before.length ∧
    offset + byteLength before = place

variable {word text rest before after : List Char} {character : Char} {skip offset place : Nat}

/-! ## Where a word may stand -/

/-- Two places of such a word do not overlap. -/
theorem Unbordered.length_le (unbordered : Unbordered word) (filled : before ≠ [])
    (begins : word <+: before ++ word ++ after) : word.length ≤ before.length := by
  by_contra shorter
  have less : before.length < word.length := Nat.lt_of_not_le shorter
  rw [List.append_assoc] at begins
  rcases List.prefix_of_prefix_length_le (List.prefix_append before _) begins (Nat.le_of_lt less)
    with ⟨ending, rfl⟩
  have goesOn : ending <+: before ++ ending ++ after := (List.prefix_append_right_inj _).1 begins
  have border : ending <+: before ++ ending :=
    List.prefix_of_prefix_length_le goesOn (List.prefix_append _ after)
      (List.suffix_append before ending).length_le
  apply unbordered.2 before.length less (List.length_pos_iff.2 filled)
  rwa [List.drop_left]

theorem not_standsBehind_nil (filled : word ≠ []) : ¬ StandsBehind word skip offset [] place := by
  intro stands
  rcases stands with ⟨before, after, split, _⟩
  simp [filled] at split

theorem standsBehind_succ_cons :
    StandsBehind word (skip + 1) offset (character :: rest) place ↔
      StandsBehind word skip (offset + character.utf8Size) rest place := by
  constructor
  · intro stands
    rcases stands with ⟨before, after, split, enough, sum⟩
    cases before with
    | nil => cases enough
    | cons first others =>
        cases split
        exact ⟨others, after, rfl, Nat.le_of_succ_le_succ enough, (Nat.add_assoc _ _ _).trans sum⟩
  · intro stands
    rcases stands with ⟨before, after, rfl, enough, sum⟩
    exact ⟨character :: before, after, rfl, Nat.succ_le_succ enough,
      (Nat.add_assoc _ _ _).symm.trans sum⟩

theorem standsBehind_zero_iff :
    StandsBehind word 0 offset text place ↔
      (word <+: text ∧ place = offset) ∨ StandsBehind word 1 offset text place := by
  constructor
  · intro stands
    rcases stands with ⟨before, after, rfl, _, sum⟩
    cases before with
    | nil => exact .inl ⟨List.prefix_append word after, sum.symm⟩
    | cons first others => exact .inr ⟨first :: others, after, rfl, Nat.le_add_left 1 _, sum⟩
  · intro described
    rcases described with ⟨⟨after, rfl⟩, rfl⟩ | ⟨before, after, split, _, sum⟩
    · exact ⟨[], after, rfl, Nat.zero_le _, rfl⟩
    · exact ⟨before, after, split, Nat.zero_le _, sum⟩

/-- Behind a place of the word, the next one has to leave room for it. -/
theorem standsBehind_one_iff (unbordered : Unbordered word) (begins : word <+: text) :
    StandsBehind word 1 offset text place ↔
      StandsBehind word word.length offset text place := by
  constructor
  · intro stands
    rcases stands with ⟨before, after, rfl, filled, sum⟩
    have room := unbordered.length_le (List.length_pos_iff.1 filled) begins
    exact ⟨before, after, rfl, room, sum⟩
  · intro stands
    rcases stands with ⟨before, after, split, room, sum⟩
    exact ⟨before, after, split, Nat.le_trans (List.length_pos_iff.2 unbordered.1) room, sum⟩

/-! ## What is found -/

theorem mem_occurrencesFrom_iff (unbordered : Unbordered word) :
    place ∈ occurrencesFrom word skip offset text ↔ StandsBehind word skip offset text place := by
  fun_induction occurrencesFrom word skip offset text with
  | case1 => exact iff_of_false List.not_mem_nil (not_standsBehind_nil unbordered.1)
  | case2 skip offset character rest induction => rw [induction, standsBehind_succ_cons]
  | case3 offset character rest here induction =>
      have begins := List.isPrefixOf_iff_prefix.1 here
      have length : word.length = word.length - 1 + 1 :=
        (Nat.sub_add_cancel (List.length_pos_iff.2 unbordered.1)).symm
      rw [List.mem_cons, induction, ← standsBehind_succ_cons, ← length,
        ← standsBehind_one_iff unbordered begins, standsBehind_zero_iff, and_iff_right begins]
  | case4 offset character rest elsewhere induction =>
      have notHere : ¬ word <+: character :: rest := mt List.isPrefixOf_iff_prefix.2 elsewhere
      rw [induction, ← standsBehind_succ_cons, standsBehind_zero_iff, or_iff_right]
      exact fun here => notHere here.1

/-- A word that does not overlap itself is found wherever it stands. -/
theorem mem_occurrences_iff (unbordered : Unbordered word) :
    place ∈ occurrences word text ↔ StandsAt word text place := by
  simp only [occurrences, mem_occurrencesFrom_iff unbordered, StandsBehind, StandsAt,
    Nat.zero_le, true_and, Nat.zero_add]

/-- What is found stands in order, and one behind the other. -/
theorem pairwise_occurrencesFrom (unbordered : Unbordered word) :
    (occurrencesFrom word skip offset text).Pairwise fun first second =>
      first + byteLength word ≤ second := by
  fun_induction occurrencesFrom word skip offset text with
  | case1 => exact .nil
  | case2 skip offset character rest induction => exact induction
  | case3 offset character rest here induction =>
      refine .cons ?_ induction
      intro place later
      rw [mem_occurrencesFrom_iff unbordered, ← standsBehind_succ_cons,
        Nat.sub_add_cancel (List.length_pos_iff.2 unbordered.1)] at later
      rcases later with ⟨before, after, split, room, rfl⟩
      have begins := List.isPrefixOf_iff_prefix.1 here
      rw [split, List.append_assoc] at begins
      rcases List.prefix_of_prefix_length_le begins (List.prefix_append before _) room
        with ⟨others, rfl⟩
      rw [byteLength_append]
      omega
  | case4 offset character rest elsewhere induction => exact induction

theorem pairwise_occurrences (unbordered : Unbordered word) (text : List Char) :
    (occurrences word text).Pairwise fun first second => first + byteLength word ≤ second :=
  pairwise_occurrencesFrom unbordered

theorem byteLength_pos (filled : text ≠ []) : 0 < byteLength text :=
  Nat.pos_of_ne_zero (mt byteLength_eq_zero_iff.1 filled)

theorem pairwise_lt_occurrences (unbordered : Unbordered word) (text : List Char) :
    (occurrences word text).Pairwise (· < ·) := by
  apply (pairwise_occurrences unbordered text).imp
  intro first second apart
  have positive := byteLength_pos unbordered.1
  omega

theorem StandsAt.le_byteLength (stands : StandsAt word text place) :
    place + byteLength word ≤ byteLength text := by
  rcases stands with ⟨before, after, rfl, rfl⟩
  simp only [byteLength_append]
  omega

/-! ## Bytes of a word -/

theorem eq_of_utf8EncodeChar_append_eq {first second : Char} {front back : List UInt8}
    (same : String.utf8EncodeChar first ++ front = String.utf8EncodeChar second ++ back) :
    first = second := by
  rcases Std.lt_trichotomy first second with before | equal | before
  · exact absurd (same ▸ utf8EncodeChar_append_lt before front back) (List.lt_irrefl _)
  · exact equal
  · exact absurd (same ▸ utf8EncodeChar_append_lt before back front) (List.lt_irrefl _)

/-- The bytes of a character tell where it ends, so texts begin alike when their bytes do. -/
theorem prefix_of_flatMap_utf8EncodeChar_prefix
    (begins : word.flatMap String.utf8EncodeChar <+: text.flatMap String.utf8EncodeChar) :
    word <+: text := by
  induction word generalizing text with
  | nil => exact List.nil_prefix
  | cons first others induction =>
      rcases begins with ⟨bytes, split⟩
      cases text with
      | nil => simp at split
      | cons character rest =>
          rw [List.flatMap_cons, List.flatMap_cons, List.append_assoc] at split
          have same := eq_of_utf8EncodeChar_append_eq split
          subst same
          rw [List.append_right_inj] at split
          exact List.cons_prefix_cons.2 ⟨rfl, induction ⟨bytes, split⟩⟩

theorem utf8EncodeChar_eq_cons (character : Char) :
    ∃ lead others, String.utf8EncodeChar character = lead :: others ∧ lead.IsUTF8FirstByte := by
  cases bytes : String.utf8EncodeChar character with
  | nil => exact absurd bytes String.utf8EncodeChar_ne_nil
  | cons lead others =>
      refine ⟨lead, others, rfl, ?_⟩
      have first : (String.utf8EncodeChar character)[0]? = some lead := by rw [bytes]; rfl
      rcases List.getElem?_eq_some_iff.1 first with ⟨_, same⟩
      exact same ▸ UInt8.isUTF8FirstByte_getElem_utf8EncodeChar.2 rfl

/-- A byte within a character does not begin one. -/
theorem not_isUTF8FirstByte_of_inside (inside : Inside text place) {byte : UInt8}
    (found : (text.flatMap String.utf8EncodeChar)[place]? = some byte) :
    ¬ byte.IsUTF8FirstByte := by
  rcases inside with ⟨before, character, after, rfl, behind, ahead⟩
  have length := length_flatMap_utf8EncodeChar before
  have within : place - byteLength before < (String.utf8EncodeChar character).length := by
    rw [String.length_utf8EncodeChar]
    omega
  rw [List.flatMap_append, List.flatMap_cons, List.getElem?_append_right (by omega), length,
    List.getElem?_append_left within] at found
  rcases List.getElem?_eq_some_iff.1 found with ⟨_, same⟩
  rw [← same, UInt8.isUTF8FirstByte_getElem_utf8EncodeChar]
  omega

/-- A word does not begin within a character. -/
theorem not_inside_of_prefix_drop (filled : word ≠ [])
    (begins : word.flatMap String.utf8EncodeChar <+:
      (text.flatMap String.utf8EncodeChar).drop place) : ¬ Inside text place := by
  intro inside
  rcases begins with ⟨bytes, split⟩
  cases word with
  | nil => exact filled rfl
  | cons first others =>
      rcases utf8EncodeChar_eq_cons first with ⟨lead, rest, encoded, leads⟩
      have there : ((text.flatMap String.utf8EncodeChar).drop place)[0]? = some lead := by
        rw [← split, List.flatMap_cons, encoded]
        rfl
      rw [List.getElem?_drop] at there
      exact not_isUTF8FirstByte_of_inside inside there leads

/-- The bytes of a word stand where its characters do. -/
theorem occursAt_iff {word text : String} (filled : word.toList ≠ []) :
    OccursAt word text place ↔ StandsAt word.toList text.toList place := by
  rw [OccursAt, bytesOf_eq, bytesOf_eq]
  constructor
  · intro begins
    have within : place ≤ byteLength text.toList := by
      by_contra beyond
      have nothing : (text.toList.flatMap String.utf8EncodeChar).drop place = [] :=
        List.drop_eq_nil_of_le (by rw [length_flatMap_utf8EncodeChar]; omega)
      rw [nothing, List.prefix_nil, ← List.length_eq_zero_iff, length_flatMap_utf8EncodeChar]
        at begins
      exact filled (byteLength_eq_zero_iff.1 begins)
    rcases (atEdge_iff_not_inside within).2 (not_inside_of_prefix_drop filled begins)
      with ⟨before, rest, split, rfl⟩
    rw [split, List.flatMap_append, ← length_flatMap_utf8EncodeChar, List.drop_left] at begins
    rcases prefix_of_flatMap_utf8EncodeChar_prefix begins with ⟨after, rfl⟩
    exact ⟨before, after, by rw [split, List.append_assoc], rfl⟩
  · intro stands
    rcases stands with ⟨before, after, split, rfl⟩
    rw [split, List.append_assoc, List.flatMap_append, List.flatMap_append,
      ← length_flatMap_utf8EncodeChar, List.drop_left]
    exact List.prefix_append _ _

example : Unbordered "any".toList := by decide
example : ¬ Unbordered "aba".toList := by decide

end LanguageWorker.Text
