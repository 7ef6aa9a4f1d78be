import LanguageWorker.Proofs.Payload.CompilerOptions
import LanguageWorker.Proofs.Script.TargetNames

namespace LanguageWorker

/-! Two ways to write a target: the digits of its ordinal, or a name. A numeral consists of
digits and a plus sign, and there is no name without the letter s, so no text is both. -/

namespace ScriptTarget

/-- Every alias has the letter, and so has the beginning of a year's name. -/
theorem s_mem_of_ofName? {name : String} {target : ScriptTarget}
    (denotes : ofName? name = some target) : 's' ∈ plainName name := by
  have names := ofName?_eq_some_iff.1 denotes
  generalize plainName name = plain at names ⊢
  cases names with
  | year numeral first last tier => exact .tail _ (.head _)
  | _ => decide

/-- Digits and the plus sign are the same in lower case. -/
theorem toLower_eq_self {character : Char} (plain : character.isDigit ∨ character = '+') :
    character.toLower = character := by
  rcases plain with digit | rfl
  · have notUpper : ¬ ('A'.val ≤ character.val ∧ character.val ≤ 'Z'.val) := by
      grind [Char.isDigit]
    exact dif_neg notUpper
  · decide

/-- No text is the ordinal of one target and the name of another. -/
theorem word?_eq_none_or_ofName?_eq_none (raw : String) :
    Text.word? raw.toList = none ∨ ofName? raw = none := by
  rw [or_iff_not_imp_left]
  intro numeral
  rcases Option.ne_none_iff_exists'.1 numeral with ⟨word, read⟩
  apply Option.eq_none_iff_forall_ne_some.2
  intro target denotes
  rcases List.mem_map.1 (s_mem_of_ofName? denotes) with ⟨character, listed, lowered⟩
  have plain := (Text.word?_eq_some_iff.1 read).isDigit_or_plus character
    (Text.mem_of_mem_trim listed)
  rw [toLower_eq_self plain] at lowered
  subst lowered
  exact absurd plain (by decide)

/-- The value that stands in a payload for what the command line is given: the number that
the text denotes, or else the text. -/
def itemOf (raw : String) : Json :=
  match Text.word? raw.toList with
  | some ordinal => .ofWord ordinal
  | none => .string raw

theorem itemOf_ne_null (raw : String) : itemOf raw ≠ .null := by
  unfold itemOf
  split
  · exact nofun
  · exact nofun

/-- A number is the target of that ordinal, and any other text has to be a name. -/
theorem ofJson_itemOf_iff {raw : String} {target : ScriptTarget} :
    decoder.ofJson (itemOf raw) = .ok target ↔
      Text.word? raw.toList = some target.ordinal ∨ ofName? raw = some target := by
  cases numeral : Text.word? raw.toList with
  | some ordinal =>
      have noName := (word?_eq_none_or_ofName?_eq_none raw).resolve_left (numeral ▸ nofun)
      have item : itemOf raw = toJson ⟨ordinal⟩ := by
        rw [itemOf, numeral]
        rfl
      rw [item, ofJson_toJson, noName]
      constructor
      · intro same
        cases same
        exact .inl rfl
      · intro described
        rcases described with same | none
        · cases same
          rfl
        · cases none
  | none =>
      have item : itemOf raw = .string raw := by rw [itemOf, numeral]
      rw [item, or_iff_right nofun]
      simp only [decoder, Decoder.ofWhole, ofJson]
      cases ofName? raw with
      | none =>
          constructor
          · intro same
            cases same
          · intro same
            cases same
      | some other => simp

/-- What is given on the command line never reads as no target at all. -/
theorem option_ofJson_itemOf_iff {raw : String} {target? : Option ScriptTarget} :
    decoder.option.ofJson (itemOf raw) = .ok target? ↔
      ∃ target, decoder.ofJson (itemOf raw) = .ok target ∧ some target = target? := by
  rw [Decoder.option_ofJson_iff ofJson_null, or_iff_right]
  exact fun null => itemOf_ne_null raw null.1

end ScriptTarget

end LanguageWorker
