import LanguageWorker.Host
import Mathlib.Logic.Basic

namespace LanguageWorker

/-! How the default declaration file is chosen. There are four ways to come to a name, and which
of them is taken hangs on the target and on whether two files are there. The names do not get in
each other's way: whatever the year, the name with the year in it is none of the fixed ones. The
main statement says what the choice of a host hangs on and how it can come out. -/

namespace DefaultLib

/-! ## Names with a year -/

theorem isDigit_of_mem_toString {number : Nat} {character : Char}
    (listed : character ∈ (toString number).toList) : character.isDigit :=
  Nat.isDigit_of_mem_toDigits (by decide) (by decide) (Nat.toList_repr ▸ listed)

/-- The names differ in their fifth character. -/
theorem yearName_ne_legacyName (target : ScriptTarget) : yearName target ≠ legacyName := by
  intro same
  have characters := congrArg (fun name => name.toList[4]?) same
  simp only [yearName, String.toList_append, List.append_assoc] at characters
  exact absurd characters (by simp [legacyName])

/-- There is no room for a year in the name of the last resort. -/
theorem yearName_ne_fallbackName (target : ScriptTarget) : yearName target ≠ fallbackName := by
  intro same
  have lengths := congrArg String.length same
  have written : 0 < (toString (year target)).length := Nat.length_repr_pos
  have known : "lib.es".length = 6 ∧ ".full.d.ts".length = 10 ∧ fallbackName.length = 12 := by
    decide
  simp only [yearName, String.length_append, known] at lengths
  omega

/-- Years are written with digits. -/
theorem yearName_ne_latestName (target : ScriptTarget) : yearName target ≠ latestName := by
  intro same
  have parts : latestName = "lib.es" ++ "next" ++ ".full.d.ts" := by decide
  have inner : toString (year target) = "next" :=
    (String.append_right_inj "lib.es").1
      ((String.append_left_inj ".full.d.ts").1 (same.trans parts))
  have listed : 'n' ∈ (toString (year target)).toList := by
    rw [inner]
    decide
  exact absurd (isDigit_of_mem_toString listed) (by decide)

/-! ## The choice -/

/-- The lowest tiers, which share one file. -/
def Oldest (target : Option ScriptTarget) : Prop := target = some ⟨0⟩ ∨ target = some ⟨1⟩

/-- The latest tier is asked for, and it has a file of its own. -/
def HasLatest (target : Option ScriptTarget) (present : String → Bool) : Prop :=
  target = some ⟨99⟩ ∧ present latestName

/-- The name with the year that a target, or an absent one, goes by. Tier two is that
of 2015, and years end with the largest 32-bit word. -/
def yearNameOf (target : Option ScriptTarget) : String :=
  "lib.es" ++ toString (min (2013 + (target.getD ⟨99⟩).ordinal.toNat) 4294967295) ++ ".full.d.ts"

/-- The ways to come to a name, next to the name that each of them gives. -/
inductive Chosen (target : Option ScriptTarget) (present : String → Bool) : String → Prop
  | legacy (oldest : Oldest target) : Chosen target present legacyName
  | latest (own : HasLatest target present) : Chosen target present latestName
  | year (later : ¬ Oldest target) (shared : ¬ HasLatest target present)
      (there : present (yearNameOf target)) : Chosen target present (yearNameOf target)
  | fallback (later : ¬ Oldest target) (shared : ¬ HasLatest target present)
      (missing : ¬ present (yearNameOf target)) : Chosen target present fallbackName

variable {target : Option ScriptTarget} {present : String → Bool}

theorem oldest_iff {tier : ScriptTarget} :
    Oldest (some tier) ↔ tier.ordinal ≤ legacyTier.ordinal := by
  rcases tier with ⟨ordinal⟩
  simp only [Oldest, Option.some.injEq, ScriptTarget.mk.injEq, ← UInt32.toNat_inj,
    UInt32.le_iff_toNat_le]
  exact Nat.le_one_iff_eq_zero_or_eq_one.symm

theorem yearName_getD (target : Option ScriptTarget) :
    yearName (target.getD ⟨99⟩) = yearNameOf target := by
  have known : ScriptTarget.yearBase.toNat = 2013 ∧ UInt32.size - 1 = 4294967295 := by decide
  rw [yearName, year, known.1, known.2, yearNameOf]

theorem HasLatest.not_oldest (own : HasLatest target present) : ¬ Oldest target := by
  rw [own.1, oldest_iff]
  decide

instance : Decidable (Oldest target) := inferInstanceAs (Decidable (_ ∨ _))

instance : Decidable (HasLatest target present) := inferInstanceAs (Decidable (_ ∧ _))

/-- One choice for targets and for their absence. -/
theorem name_eq (target : Option ScriptTarget) (present : String → Bool) :
    name target present =
      if Oldest target then legacyName
      else if HasLatest target present then latestName
      else if present (yearNameOf target) then yearNameOf target
      else fallbackName := by
  rw [← yearName_getD]
  cases target with
  | none => rfl
  | some tier =>
      have latest_iff : HasLatest (some tier) present ↔
          (tier = latestTier && present latestName) := by
        rw [Bool.and_eq_true_iff, decide_eq_true_iff, HasLatest, Option.some.injEq]
        rfl
      simp only [name, oldest_iff, latest_iff]
      rfl

theorem chosen_name (target : Option ScriptTarget) (present : String → Bool) :
    Chosen target present (name target present) := by
  rw [name_eq]
  split
  · next oldest => exact .legacy oldest
  · next later =>
    split
    · next own => exact .latest own
    · next shared =>
      split
      · next there => exact .year later shared there
      · next missing => exact .fallback later shared missing

namespace Chosen

variable {file : String} (chosen : Chosen target present file)
include chosen

theorem eq_legacyName_iff : file = legacyName ↔ Oldest target := by
  cases chosen with
  | legacy oldest => exact iff_of_true rfl oldest
  | latest own => exact iff_of_false (by decide) own.not_oldest
  | year later shared there =>
      rw [← yearName_getD]
      exact iff_of_false (yearName_ne_legacyName _) later
  | fallback later shared missing => exact iff_of_false (by decide) later

theorem eq_latestName_iff : file = latestName ↔ HasLatest target present := by
  cases chosen with
  | legacy oldest => exact iff_of_false (by decide) fun own => own.not_oldest oldest
  | latest own => exact iff_of_true rfl own
  | year later shared there =>
      rw [← yearName_getD]
      exact iff_of_false (yearName_ne_latestName _) shared
  | fallback later shared missing => exact iff_of_false (by decide) shared

theorem eq_fallbackName_iff :
    file = fallbackName ↔
      ¬ Oldest target ∧ ¬ HasLatest target present ∧ ¬ present (yearNameOf target) := by
  cases chosen with
  | legacy oldest => exact iff_of_false (by decide) fun described => described.1 oldest
  | latest own => exact iff_of_false (by decide) fun described => described.2.1 own
  | year later shared there =>
      rw [← yearName_getD] at there ⊢
      exact iff_of_false (yearName_ne_fallbackName _) fun described => described.2.2 there
  | fallback later shared missing => exact iff_of_true rfl ⟨later, shared, missing⟩

/-- The file is there, or it is one of the two that are named without looking. -/
theorem present_or_constant : present file ∨ file = legacyName ∨ file = fallbackName := by
  cases chosen with
  | legacy oldest => exact .inr (.inl rfl)
  | latest own => exact .inl own.2
  | year later shared there => exact .inl there
  | fallback later shared missing => exact .inr (.inr rfl)

end Chosen

/-- The files that are looked for. -/
def consulted (target : Option ScriptTarget) : List String :=
  yearNameOf target :: if target = some ⟨99⟩ then ["lib.esnext.full.d.ts"] else []

theorem name_congr {other : String → Bool}
    (agree : ∀ file ∈ consulted target, other file = present file) :
    name target other = name target present := by
  have year : other (yearNameOf target) = present (yearNameOf target) := agree _ (.head _)
  have latest : HasLatest target other ↔ HasLatest target present := by
    apply and_congr_right
    intro isLatest
    rw [agree latestName (by rw [consulted, if_pos isLatest]; exact .tail _ (.head _))]
  simp only [name_eq, year, latest]

/-- More files never bring back the last resort. -/
theorem name_ne_fallbackName_mono {other : String → Bool}
    (more : ∀ file, present file → other file) (found : name target present ≠ fallbackName) :
    name target other ≠ fallbackName := by
  rw [Ne, (chosen_name target other).eq_fallbackName_iff]
  rw [Ne, (chosen_name target present).eq_fallbackName_iff] at found
  intro described
  rcases described with ⟨later, shared, missing⟩
  exact found ⟨later, fun own => shared ⟨own.1, more _ own.2⟩, fun there => missing (more _ there)⟩

/-- An absent target goes by the year of the latest tier, but does not try its own file. -/
theorem name_none_eq_iff :
    name none present = name (some ⟨99⟩) present ↔ ¬ present latestName := by
  have unset : ¬ HasLatest none present := nofun
  have latest : HasLatest (some ⟨99⟩) present ↔ present latestName := and_iff_right rfl
  by_cases there : present latestName
  · have own : name (some ⟨99⟩) present = latestName :=
      (chosen_name _ _).eq_latestName_iff.2 (latest.2 there)
    rw [own, (chosen_name none present).eq_latestName_iff]
    exact iff_of_false unset fun missing => missing there
  · apply iff_of_true
    · rw [name_eq, name_eq, if_neg unset, if_neg (latest.not.2 there)]
      rfl
    · exact there

end DefaultLib

namespace Host

open DefaultLib

/-- A declaration file that is in one of the registries of a host. -/
def Registers (host : Host) (file : String) : Prop :=
  file ∈ host.libs.keys ∨ file ∈ host.extraLibs.keys

theorem hasLib_iff {host : Host} {file : String} : host.hasLib file ↔ host.Registers file := by
  rw [hasLib, Bool.or_eq_true_iff, OrderedMap.contains_iff, OrderedMap.contains_iff, Registers]

/-- The choice of a host for some options. -/
structure ChoosesDefaultLib (host : Host) (options : CompilerOptions) : Prop where
  /-- Of the options only the target counts, and of the files only those looked for. -/
  congr : ∀ (other : Host) (others : CompilerOptions), others.target = options.target →
    (∀ file ∈ consulted options.target, other.Registers file ↔ host.Registers file) →
    other.defaultLibFileName others = host.defaultLibFileName options
  there_or_constant : host.Registers (host.defaultLibFileName options) ∨
    host.defaultLibFileName options = "lib.d.ts" ∨
    host.defaultLibFileName options = "lib.es6.d.ts"
  legacy_iff : host.defaultLibFileName options = "lib.d.ts" ↔
    options.target = some ⟨0⟩ ∨ options.target = some ⟨1⟩
  fallback_iff : host.defaultLibFileName options = "lib.es6.d.ts" ↔
    ¬ (options.target = some ⟨0⟩ ∨ options.target = some ⟨1⟩) ∧
      ¬ (options.target = some ⟨99⟩ ∧ host.Registers "lib.esnext.full.d.ts") ∧
      ¬ host.Registers (yearNameOf options.target)
  /-- More files never bring back the last resort. -/
  monotone : ∀ (other : Host) (others : CompilerOptions), others.target = options.target →
    (∀ file ∈ host.libs.keys, file ∈ other.libs.keys) →
    (∀ file ∈ host.extraLibs.keys, file ∈ other.extraLibs.keys) →
    host.defaultLibFileName options ≠ "lib.es6.d.ts" →
    other.defaultLibFileName others ≠ "lib.es6.d.ts"
  unset_iff : host.defaultLibFileName { options with target := none } =
      host.defaultLibFileName { options with target := some ⟨99⟩ } ↔
    ¬ host.Registers "lib.esnext.full.d.ts"
  isDefault_iff : ∀ name,
    host.isDefaultLibFileName name ↔ name = host.defaultLibFileName host.settings

/-- Whatever the files and the options, the default file is chosen by the target and by the files
that are looked for. It is there or has one of two fixed names, and it is the only one of its
host. -/
theorem choosesDefaultLib (host : Host) (options : CompilerOptions) :
    host.ChoosesDefaultLib options := by
  have chosen := chosen_name options.target host.hasLib
  constructor
  · intro other others sameTarget agree
    rw [defaultLibFileName, sameTarget]
    apply name_congr
    intro file looked
    rw [Bool.eq_iff_iff, hasLib_iff, hasLib_iff]
    exact agree file looked
  · exact chosen.present_or_constant.imp_left hasLib_iff.1
  · exact chosen.eq_legacyName_iff
  · rw [← hasLib_iff, ← hasLib_iff]
    exact chosen.eq_fallbackName_iff
  · intro other others sameTarget libs extraLibs found
    rw [defaultLibFileName, sameTarget]
    apply name_ne_fallbackName_mono ?_ found
    intro file there
    exact hasLib_iff.2 ((hasLib_iff.1 there).imp (libs file) (extraLibs file))
  · rw [← hasLib_iff]
    exact name_none_eq_iff
  · intro name
    rw [isDefaultLibFileName, beq_iff_eq, eq_comm]

end Host

end LanguageWorker
