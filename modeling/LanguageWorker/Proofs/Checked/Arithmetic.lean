import LanguageWorker.Proofs.Script.TargetNames
import LanguageWorker.Script.DefaultLib
import LanguageWorker.Script.Snapshot
import LanguageWorker.Service.Edit

namespace LanguageWorker

/-! Computations that may break off. Sums, differences and counts of 32 bits break off where the
result does not fit, and so does cutting a piece out of a text that does not have it. The few
definitions that count or cut are written here a second time, over operations that break off, and
each is shown to come through with the result of the plain definition. -/

/-- Why a computation breaks off. -/
inductive Break where
  | overflow
  | outOfBounds
  | insideCharacter
  /-- The engine has broken off. -/
  | engine
  deriving DecidableEq, Repr

/-- What comes of a computation that may break off. -/
abbrev Checked := Except Break

namespace Checked

variable {α : Type}

def add (first second : UInt32) : Checked UInt32 :=
  if first.toNat + second.toNat < UInt32.size then .ok (first + second) else .error .overflow

def sub (first second : UInt32) : Checked UInt32 :=
  if second ≤ first then .ok (first - second) else .error .overflow

/-- The number after a given one. -/
def count (number : Int32) : Checked Int32 :=
  if number.toInt < Int32.maxValue.toInt then .ok (number + 1) else .error .overflow

/-- The piece of a text between two byte offsets. -/
def cut (text : List Char) (start stop : Nat) : Checked (List Char) :=
  if start ≤ stop ∧ stop ≤ Text.byteLength text then
    match Text.slice? text start stop with
    | some piece => .ok piece
    | none => .error .insideCharacter
  else .error .outOfBounds

/-- Put up with a fallback where there is no result. -/
def orElse (attempt : Checked α) (fallback : α) : Checked α :=
  match attempt with
  | .ok value => .ok value
  | .error _ => .ok fallback

theorem count_of_ne {number : Int32} (notLast : number ≠ Int32.maxValue) :
    count number = .ok (number + 1) := by
  have atMost : number.toInt ≤ Int32.maxValue.toInt := Int32.toInt_le number
  have other : number.toInt ≠ Int32.maxValue.toInt := fun same =>
    notLast (Int32.toInt_inj.1 same)
  exact if_pos (Int.lt_iff_le_and_ne.2 ⟨atMost, other⟩)

theorem count_maxValue : count Int32.maxValue = .error .overflow := rfl

end Checked

/-! ## Spans -/

namespace Span

open Checked

def checkedOfBounds (start stop : UInt32) : Checked Span := do
  let length ← orElse (sub stop start) 0
  return ⟨start, length⟩

theorem checkedOfBounds_eq (start stop : UInt32) :
    checkedOfBounds start stop = .ok (ofBounds start stop) := by
  unfold checkedOfBounds ofBounds sub
  split
  · rfl
  · rfl

theorem stop?_of_toNat_eq {span : Span} {stop : UInt32}
    (exact : span.start.toNat + span.length.toNat = stop.toNat) : span.stop? = some stop := by
  have fits : span.start.toNat + span.length.toNat < UInt32.size := exact ▸ stop.toNat_lt
  have equal : span.start + span.length = stop := by
    rw [← UInt32.toNat_inj, UInt32.toNat_add, Nat.mod_eq_of_lt fits, exact]
  rw [stop?, if_pos fits, equal]

/-- The offset behind a span between two bounds is the larger one. -/
theorem stop?_ofBounds (start stop : UInt32) :
    (ofBounds start stop).stop? = some (max start stop) := by
  apply stop?_of_toNat_eq
  by_cases ordered : start ≤ stop
  · have larger : max start stop = stop := if_pos ordered
    have length : (ofBounds start stop).length = stop - start := if_pos ordered
    rw [larger, length, UInt32.toNat_sub_of_le _ _ ordered]
    exact Nat.add_sub_of_le (UInt32.le_iff_toNat_le.1 ordered)
  · have larger : max start stop = start := if_neg ordered
    have length : (ofBounds start stop).length = 0 := if_neg ordered
    rw [larger, length]
    rfl

end Span

/-! ## Tiers -/

namespace ScriptTarget

open Checked

def checkedOfYear? (year : UInt32) : Checked (Option ScriptTarget) := do
  if firstYear ≤ year then
    let ordinal ← sub year yearBase
    return some ⟨ordinal⟩
  else return none

def checkedOfYearName? : List Char → Checked (Option ScriptTarget)
  | 'e' :: 's' :: digits =>
      match Text.word? digits with
      | some year => checkedOfYear? year
      | none => return none
  | _ => return none

def checkedOfName? (name : String) : Checked (Option ScriptTarget) :=
  match aliases.lookup (String.ofList (plainName name)) with
  | some target => return some target
  | none => checkedOfYearName? (plainName name)

theorem checkedOfYear?_eq (year : UInt32) : checkedOfYear? year = .ok (ofYear? year) := by
  unfold checkedOfYear? ofYear?
  split
  · next first =>
    have base : yearBase ≤ year := UInt32.le_trans (by decide) first
    rw [sub, if_pos base]
    rfl
  · rfl

theorem checkedOfYearName?_eq (plain : List Char) :
    checkedOfYearName? plain = .ok (ofYearName? plain) := by
  unfold checkedOfYearName?
  split
  · next digits =>
    rw [ofYearName?]
    cases Text.word? digits with
    | none => rfl
    | some year => exact checkedOfYear?_eq year
  · next other =>
    unfold ofYearName?
    split
    · next digits => exact absurd rfl (other digits)
    · rfl

theorem checkedOfName?_eq (name : String) : checkedOfName? name = .ok (ofName? name) := by
  rw [ofName?, checkedOfName?, ofPlainName?]
  cases aliases.lookup (String.ofList (plainName name)) with
  | none => exact checkedOfYearName?_eq (plainName name)
  | some target => rfl

end ScriptTarget

namespace DefaultLib

open Checked

def lastYear : UInt32 := 4294967295

def checkedYear (target : ScriptTarget) : Checked UInt32 :=
  orElse (add ScriptTarget.yearBase target.ordinal) lastYear

def checkedYearName (target : ScriptTarget) : Checked String := do
  let year ← checkedYear target
  return "lib.es" ++ toString year.toNat ++ ".full.d.ts"

def checkedByYear (target : ScriptTarget) (present : String → Bool) : Checked String := do
  let name ← checkedYearName target
  return if present name then name else fallbackName

def checkedName (target : Option ScriptTarget) (present : String → Bool) : Checked String :=
  match target with
  | none => checkedByYear unsetTier present
  | some target =>
      if target.ordinal ≤ legacyTier.ordinal then return legacyName
      else if target = latestTier && present latestName then return latestName
      else checkedByYear target present

theorem checkedYear_eq (target : ScriptTarget) :
    ∃ word, checkedYear target = .ok word ∧ word.toNat = year target := by
  unfold checkedYear year add
  split
  · next fits =>
    refine ⟨_, rfl, ?_⟩
    rw [UInt32.toNat_add, Nat.mod_eq_of_lt fits, Nat.min_eq_left (Nat.le_sub_one_of_lt fits)]
  · next large =>
    have past := Nat.le_trans (Nat.sub_le UInt32.size 1) (Nat.le_of_not_lt large)
    exact ⟨_, rfl, (Nat.min_eq_right past).symm⟩

theorem checkedYearName_eq (target : ScriptTarget) :
    checkedYearName target = .ok (yearName target) := by
  rcases checkedYear_eq target with ⟨word, comes, same⟩
  rw [checkedYearName, comes, yearName, ← same]
  rfl

theorem checkedByYear_eq (target : ScriptTarget) (present : String → Bool) :
    checkedByYear target present = .ok (byYear target present) := by
  rw [checkedByYear, checkedYearName_eq]
  rfl

theorem checkedName_eq (target : Option ScriptTarget) (present : String → Bool) :
    checkedName target present = .ok (name target present) := by
  cases target with
  | none => exact checkedByYear_eq unsetTier present
  | some target =>
      unfold checkedName name
      dsimp only
      split
      · rfl
      · split
        · rfl
        · exact checkedByYear_eq target present

end DefaultLib

/-! ## Pieces of texts -/

namespace Text

/-- There is a piece between two offsets where a text falls into three parts at them. -/
theorem slice?_eq_some_iff {text piece : List Char} {start stop : Nat} :
    slice? text start stop = some piece ↔
      ∃ before after, text = before ++ piece ++ after ∧ byteLength before = start ∧
        byteLength before + byteLength piece = stop := by
  simp only [slice?, Option.bind_eq_bind, Option.bind_eq_some_iff, Prod.exists, Option.pure_def,
    Option.some.injEq]
  constructor
  · intro cuts
    rcases cuts with ⟨front, after, first, before, _, second, rfl⟩
    rcases splitAtByte?_eq_some first with ⟨rfl, rfl⟩
    rcases splitAtByte?_eq_some second with ⟨rfl, rfl⟩
    exact ⟨before, after, rfl, rfl, (byteLength_append _ _).symm⟩
  · intro described
    rcases described with ⟨before, after, rfl, rfl, rfl⟩
    refine ⟨before ++ piece, after, ?_, before, piece, splitAtByte?_append before piece, rfl⟩
    rw [← byteLength_append]
    exact splitAtByte?_append (before ++ piece) after

end Text

namespace Snapshot

open Checked

def checkedGetText? (snapshot : Snapshot) (start stop : Nat) : Checked (Option String) :=
  let start := min start snapshot.length
  let stop := min stop snapshot.length
  let (start, stop) := if start ≤ stop then (start, stop) else (stop, start)
  orElse (do return some (String.ofList (← cut snapshot.text.toList start stop))) none

/-- The smaller of two offsets, or the end of the text if that comes first. -/
def lower (snapshot : Snapshot) (start stop : Nat) : Nat := min (min start stop) snapshot.length

/-- The larger of two offsets, or the end of the text if that comes first. -/
def upper (snapshot : Snapshot) (start stop : Nat) : Nat := min (max start stop) snapshot.length

/-- What is cut out of a text between two offsets, whichever way round. -/
structure CutsWithin (snapshot : Snapshot) (start stop : Nat) : Prop where
  comes : snapshot.checkedGetText? start stop = .ok (snapshot.getText? start stop)
  within : cut snapshot.text.toList (snapshot.lower start stop) (snapshot.upper start stop) ≠
    .error .outOfBounds
  piece_iff : ∀ piece, snapshot.getText? start stop = some piece ↔
    ∃ before after, snapshot.text.toList = before ++ piece.toList ++ after ∧
      Text.byteLength before = snapshot.lower start stop ∧
      Text.byteLength before + Text.byteLength piece.toList = snapshot.upper start stop

variable (snapshot : Snapshot) (start stop : Nat)

theorem min_clamped : min (min start snapshot.length) (min stop snapshot.length) =
    snapshot.lower start stop := by
  grind [Snapshot.lower]

theorem max_clamped : max (min start snapshot.length) (min stop snapshot.length) =
    snapshot.upper start stop := by
  grind [Snapshot.upper]

theorem ordered_clamped :
    (if min start snapshot.length ≤ min stop snapshot.length
      then (min start snapshot.length, min stop snapshot.length)
      else (min stop snapshot.length, min start snapshot.length)) =
      (snapshot.lower start stop, snapshot.upper start stop) := by
  rw [← min_clamped, ← max_clamped]
  split
  · next inOrder => rw [Nat.min_eq_left inOrder, Nat.max_eq_right inOrder]
  · next reversed =>
    have inOrder := Nat.le_of_not_le reversed
    rw [Nat.min_eq_right inOrder, Nat.max_eq_left inOrder]

theorem getText?_eq :
    snapshot.getText? start stop =
      (Text.slice? snapshot.text.toList (snapshot.lower start stop)
        (snapshot.upper start stop)).map String.ofList := by
  simp only [getText?, min_clamped, max_clamped]

/-- Once the offsets are within the text and in order, only a character can be in the way. -/
theorem cut_lower_upper :
    cut snapshot.text.toList (snapshot.lower start stop) (snapshot.upper start stop) =
      match Text.slice? snapshot.text.toList (snapshot.lower start stop)
        (snapshot.upper start stop) with
      | some piece => .ok piece
      | none => .error .insideCharacter := by
  apply if_pos
  constructor
  · rw [← min_clamped, ← max_clamped]
    exact Nat.le_trans (Nat.min_le_left _ _) (Nat.le_max_left _ _)
  · exact Nat.min_le_right _ _

theorem checkedGetText?_eq :
    snapshot.checkedGetText? start stop = .ok (snapshot.getText? start stop) := by
  simp only [checkedGetText?, ordered_clamped, cut_lower_upper, getText?_eq]
  cases Text.slice? snapshot.text.toList (snapshot.lower start stop)
    (snapshot.upper start stop) with
  | none => rfl
  | some piece => rfl

theorem cutsWithin : CutsWithin snapshot start stop where
  comes := snapshot.checkedGetText?_eq start stop
  within := by
    rw [cut_lower_upper]
    split
    · exact nofun
    · exact nofun
  piece_iff := by
    intro piece
    rw [getText?_eq, Option.map_eq_some_iff]
    constructor
    · intro cuts
      rcases cuts with ⟨letters, sliced, rfl⟩
      rw [String.toList_ofList]
      exact Text.slice?_eq_some_iff.1 sliced
    · intro described
      exact ⟨piece.toList, Text.slice?_eq_some_iff.2 described, String.ofList_toList⟩

end Snapshot

end LanguageWorker
