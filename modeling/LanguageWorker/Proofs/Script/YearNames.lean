import LanguageWorker.Proofs.Host.DefaultLib
import LanguageWorker.Proofs.Script.Target

namespace LanguageWorker

/-! Years of tiers, read and written. The name of a tier is read by counting its year back to
an ordinal, and the file of a tier is named by counting the ordinal on to a year. The two counts
undo each other as long as the year is one that a 32-bit word holds; from there on all tiers
share the file of the last year. -/

namespace ScriptTarget

/-- A name without blanks and capitals is plain already. -/
theorem plainName_of_plain {name : String}
    (plain : ∀ character ∈ name.toList, ¬ Text.isBlank character ∧ character.toLower = character) :
    plainName name = name.toList := by
  have solid : Text.trim name.toList = name.toList :=
    Text.trim_of_not_isBlank fun character listed => (plain character listed).1
  rw [plainName, solid]
  rw [List.map_congr_left fun character listed => (plain character listed).2, List.map_id']

theorem plainName_year (year : Nat) :
    plainName ("es" ++ toString year) = 'e' :: 's' :: (toString year).toList := by
  have letters : ∀ character ∈ "es".toList,
      ¬ Text.isBlank character ∧ character.toLower = character := by
    intro character listed
    have either : character = 'e' ∨ character = 's' := by simpa using listed
    rcases either with rfl | rfl <;> decide
  have digits : ∀ character ∈ (toString year).toList,
      ¬ Text.isBlank character ∧ character.toLower = character := by
    intro character listed
    have digit := DefaultLib.isDigit_of_mem_toString listed
    exact ⟨Text.not_isBlank_of_isDigit digit, toLower_eq_self (.inl digit)⟩
  have written : ("es" ++ toString year).toList = 'e' :: 's' :: (toString year).toList :=
    String.toList_append
  rw [← written]
  apply plainName_of_plain
  rw [String.toList_append]
  intro character listed
  exact (List.mem_append.1 listed).elim (letters character) (digits character)

/-- The name of a year denotes the tier that is counted from the year. -/
theorem ofName?_year {year : Nat} {target : ScriptTarget} (first : 2015 ≤ year)
    (last : year ≤ 4294967295) (tier : target.ordinal.toNat = year - 2013) :
    ofName? ("es" ++ toString year) = some target := by
  rw [ofName?_eq_some_iff, plainName_year]
  exact .year (.plain (Text.digits_toString year)) first last tier

end ScriptTarget

namespace DefaultLib

/-- The first tier that goes by the last year. -/
def lastTier : Nat := 4294965282

theorem year_eq (target : ScriptTarget) :
    year target = 2013 + min target.ordinal.toNat lastTier := by
  have known : ScriptTarget.yearBase.toNat = 2013 ∧ UInt32.size - 1 = 2013 + lastTier := by decide
  rw [year, known.1, known.2, Nat.add_min_add_left]

theorem yearName_eq_iff {target other : ScriptTarget} :
    yearName target = yearName other ↔ year target = year other := by
  constructor
  · intro same
    have inner : toString (year target) = toString (year other) :=
      (String.append_right_inj "lib.es").1 ((String.append_left_inj ".full.d.ts").1 same)
    have value := (Text.digits_toString (year target)).value
    rw [inner] at value
    exact value.symm.trans (Text.digits_toString (year other)).value
  · intro same
    rw [yearName, same, yearName]

theorem year_eq_iff {target other : ScriptTarget} :
    year target = year other ↔
      target = other ∨ (lastTier ≤ target.ordinal.toNat ∧ lastTier ≤ other.ordinal.toNat) := by
  have same_iff : target = other ↔ target.ordinal.toNat = other.ordinal.toNat := by
    cases target
    cases other
    rw [ScriptTarget.mk.injEq, UInt32.toNat_inj]
  rw [year_eq, year_eq, same_iff]
  omega

/-- Reading the name of a year and naming the file of a tier undo each other, from 2015 to the
last year that a word holds. Two tiers share a file only when both go by that last year, and no
file that goes by a year is one of those that do not. -/
theorem yearName_ofName? :
    (∀ written : Nat, 2015 ≤ written → written ≤ 4294967295 →
      ∃ target, ScriptTarget.ofName? ("es" ++ toString written) = some target ∧
        yearName target = "lib.es" ++ toString written ++ ".full.d.ts") ∧
    (∀ target : ScriptTarget, 2 ≤ target.ordinal.toNat → target.ordinal.toNat ≤ 4294965282 →
      ScriptTarget.ofName? ("es" ++ toString (year target)) = some target) ∧
    (∀ target other : ScriptTarget, yearName target = yearName other ↔
      target = other ∨
        (4294965282 ≤ target.ordinal.toNat ∧ 4294965282 ≤ other.ordinal.toNat)) ∧
    ∀ target : ScriptTarget, yearName target ≠ "lib.d.ts" ∧ yearName target ≠ "lib.es6.d.ts" ∧
      yearName target ≠ "lib.esnext.full.d.ts" := by
  refine ⟨?_, ?_, ?_, ?_⟩
  · intro written first last
    have counted : (UInt32.ofNat (written - 2013)).toNat = written - 2013 :=
      UInt32.toNat_ofNat_of_lt' (Nat.lt_of_le_of_lt (Nat.sub_le _ _) (Nat.lt_succ_of_le last))
    have years : year ⟨UInt32.ofNat (written - 2013)⟩ = written := by
      rw [year_eq, counted, lastTier]
      omega
    refine ⟨⟨UInt32.ofNat (written - 2013)⟩, ScriptTarget.ofName?_year first last counted, ?_⟩
    rw [yearName, years]
  · intro target first last
    have years : year target = target.ordinal.toNat + 2013 := by
      rw [year_eq, lastTier]
      omega
    apply ScriptTarget.ofName?_year <;> omega
  · intro target other
    rw [yearName_eq_iff]
    exact year_eq_iff
  · intro target
    exact ⟨yearName_ne_legacyName target, yearName_ne_fallbackName target,
      yearName_ne_latestName target⟩

example : ScriptTarget.ofName? "es4294967295" = some ⟨4294965282⟩ := by decide
example : yearName ⟨4294965283⟩ = "lib.es4294967295.full.d.ts" := by decide +kernel

end DefaultLib

end LanguageWorker
