import LanguageWorker.Script.Target

namespace LanguageWorker

/-! The declaration file that a target brings in by itself.

Tiers are numbered by year, with 2015 as tier two, and the names of the
year-qualified files follow that numbering. The lowest tiers share one file. The
latest tier has a file of its own and goes by its year where that is missing.
The last resort is the plain declaration set of 2015. -/

namespace DefaultLib

/-- The highest tier served by the one legacy file. -/
def legacyTier : ScriptTarget := .es5

/-- The tier that first tries the latest file. -/
def latestTier : ScriptTarget := .esNext

/-- The tier whose year stands in for an absent target. -/
def unsetTier : ScriptTarget := .esNext

def legacyName : String := "lib.d.ts"

def latestName : String := "lib.esnext.full.d.ts"

def fallbackName : String := "lib.es6.d.ts"

/-- The year of a tier; years end with the largest 32-bit word. -/
def year (target : ScriptTarget) : Nat :=
  min (ScriptTarget.yearBase.toNat + target.ordinal.toNat) (UInt32.size - 1)

/-- The year-qualified file name of a tier. -/
def yearName (target : ScriptTarget) : String :=
  "lib.es" ++ toString (year target) ++ ".full.d.ts"

/-- The year-qualified file if it is there, or else the last resort. -/
def byYear (target : ScriptTarget) (present : String → Bool) : String :=
  if present (yearName target) then yearName target else fallbackName

/-- The default file of a target, where `present` tells which files there are. -/
def name (target : Option ScriptTarget) (present : String → Bool) : String :=
  match target with
  | none => byYear unsetTier present
  | some target =>
      if target.ordinal ≤ legacyTier.ordinal then legacyName
      else if target = latestTier && present latestName then latestName
      else byYear target present

example : name (some ⟨4⟩) (· == "lib.es2017.full.d.ts") = "lib.es2017.full.d.ts" := by
  decide +kernel
example : name none (· == latestName) = fallbackName := by decide +kernel

end DefaultLib

end LanguageWorker
