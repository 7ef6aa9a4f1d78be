namespace LanguageWorker.Text

/-! Texts are counted in bytes of their UTF-8 form, while they are held as
characters. Every function here walks the characters and charges each one its
encoded size, so an offset is a character boundary exactly when the walk can
stop there. -/

/-- The number of bytes that some characters take in UTF-8. -/
def byteLength : List Char → Nat
  | [] => 0
  | character :: rest => character.utf8Size + byteLength rest

@[simp] theorem byteLength_nil : byteLength [] = 0 := rfl

@[simp] theorem byteLength_cons (character : Char) (rest : List Char) :
    byteLength (character :: rest) = character.utf8Size + byteLength rest := rfl

@[simp] theorem byteLength_append (first second : List Char) :
    byteLength (first ++ second) = byteLength first + byteLength second := by
  induction first with
  | nil => simp
  | cons character rest induction => simp [induction, Nat.add_assoc]

/-- Cut a text after `offset` bytes. There is no such cut when the offset lies
inside a character or past the end. -/
def splitAtByte? : List Char → Nat → Option (List Char × List Char)
  | text, 0 => some ([], text)
  | [], _ + 1 => none
  | character :: rest, offset + 1 =>
      if offset + 1 < character.utf8Size then none
      else
        (splitAtByte? rest (offset + 1 - character.utf8Size)).map
          fun (before, after) => (character :: before, after)

/-- The text between two byte offsets, when both are character boundaries of
the text and the first is not behind the second. -/
def slice? (text : List Char) (start stop : Nat) : Option (List Char) := do
  let (before, _) ← splitAtByte? text stop
  let (_, middle) ← splitAtByte? before start
  return middle

example : slice? ['a', 'é', 'b'] 1 3 = some ['é'] := by decide
example : slice? ['a', 'é', 'b'] 2 3 = none := by decide
example : slice? ['a', 'é', 'b'] 2 2 = none := by decide

theorem splitAtByte?_eq_some {text before after : List Char} {offset : Nat}
    (cut : splitAtByte? text offset = some (before, after)) :
    text = before ++ after ∧ byteLength before = offset := by
  fun_induction splitAtByte? text offset generalizing before after with
  | case1 text =>
      simp only [Option.some.injEq, Prod.mk.injEq] at cut
      obtain ⟨rfl, rfl⟩ := cut
      simp
  | case2 => simp at cut
  | case3 => simp at cut
  | case4 character rest offset large induction =>
      simp only [Option.map_eq_some_iff, Prod.exists, Prod.mk.injEq] at cut
      obtain ⟨shorter, tail, found, rfl, rfl⟩ := cut
      obtain ⟨split, length⟩ := induction found
      subst split
      refine ⟨rfl, ?_⟩
      simp only [byteLength_cons, length]
      omega

theorem splitAtByte?_append (before after : List Char) :
    splitAtByte? (before ++ after) (byteLength before) = some (before, after) := by
  induction before with
  | nil => cases after <;> simp [splitAtByte?]
  | cons character rest induction =>
      have positive := character.utf8Size_pos
      obtain ⟨size, equal⟩ : ∃ size, character.utf8Size + byteLength rest = size + 1 :=
        ⟨character.utf8Size + byteLength rest - 1, by omega⟩
      simp only [List.cons_append, byteLength_cons, equal, splitAtByte?]
      have remaining : size + 1 - character.utf8Size = byteLength rest := by omega
      have enough : ¬ size + 1 < character.utf8Size := by omega
      simp [enough, remaining, induction]

end LanguageWorker.Text
