import LanguageWorker.Text.Numeral
import Mathlib.Data.Nat.Digits.Defs

namespace LanguageWorker.Text

/-! What numerals denote. The reader takes digits from the front and multiplies as it goes; here a
numeral is described by its form and by the number that its digits have in the decimal system,
and the reader accepts just the numerals of numbers that fit in a word. -/

/-- The number that digits denote, the last of them counting ones. -/
def numberOf (digits : List Char) : Nat :=
  Nat.ofDigits 10 (digits.reverse.map fun character => character.toNat - '0'.toNat)

theorem numberOf_cons (character : Char) (rest : List Char) :
    numberOf (character :: rest) =
      10 ^ rest.length * (character.toNat - '0'.toNat) + numberOf rest := by
  rw [numberOf, List.reverse_cons, List.map_append, Nat.ofDigits_append, List.map_singleton,
    Nat.ofDigits_singleton, List.length_map, List.length_reverse, Nat.add_comm]
  rfl

theorem digit?_eq_some_iff {character : Char} {digit : Nat} :
    digit? character = some digit ↔
      character.isDigit ∧ character.toNat - '0'.toNat = digit := by
  unfold digit?
  split
  · next isDigit => simp [isDigit]
  · next other => simp [other]

theorem digitsFrom?_eq_some_iff {text : List Char} {sofar number : Nat} :
    digitsFrom? sofar text = some number ↔
      (∀ character ∈ text, character.isDigit) ∧
        10 ^ text.length * sofar + numberOf text = number := by
  induction text generalizing sofar with
  | nil => simp [digitsFrom?, numberOf]
  | cons character rest induction =>
      have value (digit : Nat) :
          10 ^ (rest.length + 1) * sofar + (10 ^ rest.length * digit + numberOf rest) =
            10 ^ rest.length * (10 * sofar + digit) + numberOf rest := by
        rw [Nat.pow_succ, Nat.mul_add, Nat.mul_assoc, Nat.add_assoc]
      rw [List.forall_mem_cons, List.length_cons, numberOf_cons, value]
      constructor
      · intro read
        rcases Option.bind_eq_some_iff.1 read with ⟨digit, first, later⟩
        rcases digit?_eq_some_iff.1 first with ⟨isDigit, rfl⟩
        rcases induction.1 later with ⟨digits, same⟩
        exact ⟨⟨isDigit, digits⟩, same⟩
      · intro described
        rcases described with ⟨⟨isDigit, digits⟩, same⟩
        exact Option.bind_eq_some_iff.2
          ⟨_, digit?_eq_some_iff.2 ⟨isDigit, rfl⟩, induction.2 ⟨digits, same⟩⟩

/-- At least one digit, and the number that the digits denote. -/
structure Digits (text : List Char) (number : Nat) : Prop where
  nonempty : text ≠ []
  digits : ∀ character ∈ text, character.isDigit
  value : numberOf text = number

theorem digits?_eq_some_iff {text : List Char} {number : Nat} :
    digits? text = some number ↔ Digits text number := by
  cases text with
  | nil => exact iff_of_false nofun fun digits => digits.nonempty rfl
  | cons first rest =>
      have read : digits? (first :: rest) = some number ↔ _ := digitsFrom?_eq_some_iff
      rw [read, Nat.mul_zero, Nat.zero_add]
      constructor
      · intro described
        exact ⟨nofun, described.1, described.2⟩
      · intro digits
        exact ⟨digits.digits, digits.value⟩

/-- A numeral: digits, with or without a plus sign. -/
inductive Numeral : List Char → Nat → Prop
  | plain {text : List Char} {number : Nat} (digits : Digits text number) : Numeral text number
  | signed {text : List Char} {number : Nat} (digits : Digits text number) :
      Numeral ('+' :: text) number

theorem Digits.not_sign {text : List Char} {number : Nat} (digits : Digits ('+' :: text) number) :
    False :=
  absurd (digits.digits '+' List.mem_cons_self) (by decide)

theorem numeral_signed_iff {text : List Char} {number : Nat} :
    Numeral ('+' :: text) number ↔ Digits text number := by
  constructor
  · intro numeral
    cases numeral with
    | plain digits => exact digits.not_sign.elim
    | signed digits => exact digits
  · exact .signed

theorem numeral_plain_iff {text : List Char} {number : Nat}
    (unsigned : ∀ rest, text ≠ '+' :: rest) :
    Numeral text number ↔ Digits text number := by
  constructor
  · intro numeral
    cases numeral with
    | plain digits => exact digits
    | signed digits => exact absurd rfl (unsigned _)
  · exact .plain

/-- What is read as a word are the numerals of numbers that fit in one. -/
theorem word?_eq_some_iff {text : List Char} {word : UInt32} :
    word? text = some word ↔ Numeral text word.toNat := by
  have fits (number : Nat) :
      (if number < UInt32.size then some (UInt32.ofNat number) else none) = some word ↔
        number = word.toNat := by
    split
    · next small =>
      rw [Option.some.injEq, ← UInt32.toNat_inj, UInt32.toNat_ofNat_of_lt' small]
    · next large =>
      exact iff_of_false nofun fun same => large (same ▸ word.toNat_lt)
  have read (number? : Option Nat) :
      (do
        let number ← number?
        if number < UInt32.size then some (UInt32.ofNat number) else none) = some word ↔
        number? = some word.toNat := by
    cases number? with
    | none => exact iff_of_false nofun nofun
    | some number => exact (fits number).trans Option.some_inj.symm
  unfold word?
  split
  · rw [read, digits?_eq_some_iff, numeral_signed_iff]
  · next unsigned =>
    rw [read, digits?_eq_some_iff, numeral_plain_iff unsigned]

theorem Numeral.isDigit_or_plus {text : List Char} {number : Nat} (numeral : Numeral text number) :
    ∀ character ∈ text, character.isDigit ∨ character = '+' := by
  cases numeral with
  | plain digits => exact fun character listed => .inl (digits.digits character listed)
  | signed digits =>
      intro character listed
      exact (List.mem_cons.1 listed).symm.imp_left (digits.digits character)

/-! ## The numerals that numbers are printed as -/

theorem digitsFrom?_of_isDigit {text : List Char} (digits : ∀ character ∈ text, character.isDigit)
    (sofar : Nat) : digitsFrom? sofar text = some (Nat.ofDigitChars 10 text sofar) := by
  induction text generalizing sofar with
  | nil => rfl
  | cons character rest induction =>
      rcases List.forall_mem_cons.1 digits with ⟨isDigit, later⟩
      have first : digit? character = some (character.toNat - '0'.toNat) :=
        digit?_eq_some_iff.2 ⟨isDigit, rfl⟩
      rw [digitsFrom?, first, Nat.ofDigitChars_cons]
      exact induction later _

/-- What a number is printed as denotes it. -/
theorem digits_toString (number : Nat) : Digits (toString number).toList number := by
  have printed : (toString number).toList = Nat.toDigits 10 number := Nat.toList_repr
  have digits : ∀ character ∈ Nat.toDigits 10 number, character.isDigit := fun _ listed =>
    Nat.isDigit_of_mem_toDigits (by decide) (by decide) listed
  have read : digitsFrom? 0 (Nat.toDigits 10 number) = some number := by
    rw [digitsFrom?_of_isDigit digits, Nat.ofDigitChars_ten_toDigits]
  have value := (digitsFrom?_eq_some_iff.1 read).2
  rw [Nat.mul_zero, Nat.zero_add] at value
  rw [printed]
  exact ⟨Nat.toDigits_ne_nil, digits, value⟩

end LanguageWorker.Text
