import LanguageWorker.Proofs.OrderedMap
import LanguageWorker.Proofs.Text.Blank
import LanguageWorker.Proofs.Text.Numeral
import LanguageWorker.Script.Target

namespace LanguageWorker.ScriptTarget

/-! The names of language tiers. The reader looks a name up among the aliases and else takes it for
a year; here the names are listed form by form, with the tier of each. Many names denote one
tier, and the main statement says which: those of one year, where an alias stands for the year
of its tier. -/

/-- The names of tiers, in lower case and without blanks around them. -/
inductive Names : List Char → ScriptTarget → Prop
  | es3 : Names "es3".toList ⟨0⟩
  | es5 : Names "es5".toList ⟨1⟩
  | es6 : Names "es6".toList ⟨2⟩
  | esnext : Names "esnext".toList ⟨99⟩
  | latest : Names "latest".toList ⟨99⟩
  | json : Names "json".toList ⟨100⟩
  | year {digits : List Char} {year : Nat} {target : ScriptTarget}
      (numeral : Text.Numeral digits year) (first : 2015 ≤ year) (last : year ≤ 4294967295)
      (tier : target.ordinal.toNat = year - 2013) : Names ('e' :: 's' :: digits) target

/-- The year whose tier a name other than `es3` and `es5` denotes. -/
inductive StandsFor : List Char → Nat → Prop
  | year {digits : List Char} {year : Nat} (numeral : Text.Numeral digits year)
      (first : 2015 ≤ year) (last : year ≤ 4294967295) : StandsFor ('e' :: 's' :: digits) year
  | es6 : StandsFor "es6".toList 2015
  | esnext : StandsFor "esnext".toList 2112
  | latest : StandsFor "latest".toList 2112
  | json : StandsFor "json".toList 2113

theorem ofYear?_eq_some_iff {year : UInt32} {target : ScriptTarget} :
    ofYear? year = some target ↔
      2015 ≤ year.toNat ∧ target.ordinal.toNat = year.toNat - 2013 := by
  have counted (from2015 : 2015 ≤ year.toNat) :
      (year - yearBase).toNat = year.toNat - 2013 :=
    UInt32.toNat_sub_of_le year yearBase
      (UInt32.le_iff_toNat_le.2 (Nat.le_trans (by decide) from2015))
  unfold ofYear?
  split
  · next from2015 =>
    rw [Option.some.injEq]
    have first : 2015 ≤ year.toNat := UInt32.le_iff_toNat_le.1 from2015
    rw [← counted first, UInt32.toNat_inj]
    constructor
    · intro same
      exact ⟨first, same ▸ rfl⟩
    · intro described
      cases target
      exact congrArg ScriptTarget.mk described.2.symm
  · next earlier =>
    exact iff_of_false nofun fun described => earlier (UInt32.le_iff_toNat_le.2 described.1)

theorem ofYearName?_eq_some_iff {plain : List Char} {target : ScriptTarget} :
    ofYearName? plain = some target ↔
      ∃ digits year, plain = 'e' :: 's' :: digits ∧ Text.Numeral digits year ∧ 2015 ≤ year ∧
        year ≤ 4294967295 ∧ target.ordinal.toNat = year - 2013 := by
  constructor
  · intro denotes
    unfold ofYearName? at denotes
    split at denotes
    · next digits =>
      rcases Option.bind_eq_some_iff.1 denotes with ⟨year, read, counted⟩
      rcases ofYear?_eq_some_iff.1 counted with ⟨first, tier⟩
      exact ⟨digits, year.toNat, rfl, Text.word?_eq_some_iff.1 read, first,
        Nat.le_of_lt_succ year.toNat_lt, tier⟩
    · cases denotes
  · intro described
    rcases described with ⟨digits, year, rfl, numeral, first, last, tier⟩
    have fits : (UInt32.ofNat year).toNat = year :=
      UInt32.toNat_ofNat_of_lt' (Nat.lt_succ_of_le last)
    rw [← fits] at numeral first tier
    exact Option.bind_eq_some_iff.2
      ⟨_, Text.word?_eq_some_iff.2 numeral, ofYear?_eq_some_iff.2 ⟨first, tier⟩⟩

/-- No alias has a year in it from which tiers are counted. -/
theorem ofYearName?_of_mem_aliases : ∀ entry ∈ aliases, ofYearName? entry.1.toList = none := by
  decide

/-- Names are listed once, so an alias denotes the tier that is listed with it. -/
theorem lookup_aliases_iff {name : String} {target : ScriptTarget} :
    aliases.lookup name = some target ↔ (name, target) ∈ aliases := by
  constructor
  · exact @OrderedMap.mem_entries_of_get? _ ⟨aliases, by decide⟩ name target
  · exact @OrderedMap.get?_of_mem_entries _ ⟨aliases, by decide⟩ name target

theorem names_of_mem_aliases : ∀ entry ∈ aliases, Names entry.1.toList entry.2 := by
  simp only [aliases, List.forall_mem_cons, List.not_mem_nil, false_implies, implies_true, and_true]
  exact ⟨.es3, .es5, .es6, .esnext, .latest, .json⟩

theorem names_iff {plain : List Char} {target : ScriptTarget} :
    Names plain target ↔
      (String.ofList plain, target) ∈ aliases ∨ ofYearName? plain = some target := by
  constructor
  · intro names
    cases names with
    | es3 => exact .inl (by decide)
    | es5 => exact .inl (by decide)
    | es6 => exact .inl (by decide)
    | esnext => exact .inl (by decide)
    | latest => exact .inl (by decide)
    | json => exact .inl (by decide)
    | year numeral first last tier =>
        exact .inr (ofYearName?_eq_some_iff.2 ⟨_, _, rfl, numeral, first, last, tier⟩)
  · intro described
    rcases described with listed | denotes
    · have names := names_of_mem_aliases _ listed
      rwa [String.toList_ofList] at names
    · rcases ofYearName?_eq_some_iff.1 denotes with ⟨_, _, rfl, numeral, first, last, tier⟩
      exact .year numeral first last tier

theorem ofPlainName?_eq_some_iff {plain : List Char} {target : ScriptTarget} :
    ofPlainName? plain = some target ↔ Names plain target := by
  rw [names_iff, ← lookup_aliases_iff, ofPlainName?]
  cases found : aliases.lookup (String.ofList plain) with
  | none => exact (or_iff_right nofun).symm
  | some other =>
      have noYear := ofYearName?_of_mem_aliases _ (lookup_aliases_iff.1 found)
      rw [String.toList_ofList] at noYear
      rw [noYear]
      exact (or_iff_left nofun).symm

theorem ofName?_eq_some_iff {name : String} {target : ScriptTarget} :
    ofName? name = some target ↔ Names (plainName name) target :=
  ofPlainName?_eq_some_iff

theorem Names.unique {plain : List Char} {target other : ScriptTarget}
    (names : Names plain target) (others : Names plain other) : target = other :=
  Option.some.inj
    ((ofPlainName?_eq_some_iff.2 names).symm.trans (ofPlainName?_eq_some_iff.2 others))

/-! ## Names of one tier -/

/-- A name stands for the year of its tier, or it is one of the two oldest. -/
theorem Names.oldest_or_standsFor {plain : List Char} {target : ScriptTarget}
    (names : Names plain target) :
    (target = ⟨0⟩ ∧ plain = "es3".toList) ∨ (target = ⟨1⟩ ∧ plain = "es5".toList) ∨
      StandsFor plain (target.ordinal.toNat + 2013) := by
  cases names with
  | es3 => exact .inl ⟨rfl, rfl⟩
  | es5 => exact .inr (.inl ⟨rfl, rfl⟩)
  | es6 => exact .inr (.inr .es6)
  | esnext => exact .inr (.inr .esnext)
  | latest => exact .inr (.inr .latest)
  | json => exact .inr (.inr .json)
  | year numeral first last tier =>
      rw [tier, Nat.sub_add_cancel (Nat.le_trans (by decide) first)]
      exact .inr (.inr (.year numeral first last))

theorem StandsFor.first {plain : List Char} {year : Nat} (stands : StandsFor plain year) :
    2015 ≤ year := by
  cases stands with
  | year numeral first last => exact first
  | _ => decide

/-- Whatever stands for a year denotes the tier that is counted from it. -/
theorem StandsFor.names {plain : List Char} {year : Nat} (stands : StandsFor plain year) :
    Names plain ⟨UInt32.ofNat (year - 2013)⟩ ∧
      (UInt32.ofNat (year - 2013)).toNat = year - 2013 := by
  cases stands with
  | es6 => exact ⟨.es6, rfl⟩
  | esnext => exact ⟨.esnext, rfl⟩
  | latest => exact ⟨.latest, rfl⟩
  | json => exact ⟨.json, rfl⟩
  | year numeral first last =>
      have tier : (UInt32.ofNat (year - 2013)).toNat = year - 2013 :=
        UInt32.toNat_ofNat_of_lt' (Nat.lt_of_le_of_lt (Nat.sub_le _ _) (Nat.lt_succ_of_le last))
      exact ⟨.year numeral first last tier, tier⟩

theorem StandsFor.toNat_ordinal {plain : List Char} {year : Nat} {target : ScriptTarget}
    (stands : StandsFor plain year) (names : Names plain target) :
    target.ordinal.toNat = year - 2013 := by
  rcases stands.names with ⟨counted, tier⟩
  rw [names.unique counted]
  exact tier

/-- Two names denote one tier when they are the same or stand for one year. -/
theorem Names.eq_iff {first second : List Char} {target other : ScriptTarget}
    (names : Names first target) (others : Names second other) :
    target = other ↔
      first = second ∨ ∃ year, StandsFor first year ∧ StandsFor second year := by
  constructor
  · intro same
    subst same
    rcases names.oldest_or_standsFor with ⟨rfl, rfl⟩ | ⟨rfl, rfl⟩ | stands
    · rcases others.oldest_or_standsFor with ⟨_, rfl⟩ | ⟨impossible, _⟩ | stands
      · exact .inl rfl
      · exact absurd impossible (by decide)
      · exact absurd stands.first (by decide)
    · rcases others.oldest_or_standsFor with ⟨impossible, _⟩ | ⟨_, rfl⟩ | stands
      · exact absurd impossible (by decide)
      · exact .inl rfl
      · exact absurd stands.first (by decide)
    · rcases others.oldest_or_standsFor with ⟨rfl, _⟩ | ⟨rfl, _⟩ | standsToo
      · exact absurd stands.first (by decide)
      · exact absurd stands.first (by decide)
      · exact .inr ⟨_, stands, standsToo⟩
  · intro described
    rcases described with rfl | ⟨year, stands, standsToo⟩
    · exact names.unique others
    · have tier := (stands.toNat_ordinal names).trans (standsToo.toNat_ordinal others).symm
      cases target
      cases other
      exact congrArg ScriptTarget.mk (UInt32.toNat_inj.1 tier)

/-! ## Names as they are written -/

theorem plainName_around {before letters after : List Char} {name : String}
    (blankBefore : ∀ character ∈ before, Text.isBlank character)
    (blankAfter : ∀ character ∈ after, Text.isBlank character)
    (sameLetters : letters.map Char.toLower = name.toList.map Char.toLower) :
    plainName (String.ofList (before ++ letters ++ after)) = plainName name := by
  rw [plainName, String.toList_ofList, Text.trim_around blankBefore blankAfter,
    ← Text.trim_map_toLower, sameLetters, Text.trim_map_toLower, plainName]

/-- A name denotes a tier when it is one of the forms, in lower case and without the blanks around
it. So neither blanks around a name nor the case of its letters matter, and of two names that
denote tiers, both denote the same one when they differ only in this or stand for one year. -/
theorem ofName?_language (name : String) :
    (∃ core, Text.Trimmed name.toList core ∧ plainName name = core.map Char.toLower) ∧
    (∀ target, ofName? name = some target ↔ Names (plainName name) target) ∧
    (∀ before letters after : List Char, (∀ character ∈ before, Text.isBlank character) →
      (∀ character ∈ after, Text.isBlank character) →
      letters.map Char.toLower = name.toList.map Char.toLower →
      ofName? (String.ofList (before ++ letters ++ after)) = ofName? name) ∧
    (∀ other target otherTarget, ofName? name = some target → ofName? other = some otherTarget →
      (target = otherTarget ↔
        plainName name = plainName other ∨
          ∃ year, StandsFor (plainName name) year ∧ StandsFor (plainName other) year)) := by
  refine ⟨⟨_, Text.trimmed_trim name.toList, rfl⟩, fun _ => ofName?_eq_some_iff, ?_, ?_⟩
  · intro before letters after blankBefore blankAfter sameLetters
    rw [ofName?, ofName?, plainName_around blankBefore blankAfter sameLetters]
  · intro other target otherTarget denotes otherDenotes
    exact (ofName?_eq_some_iff.1 denotes).eq_iff (ofName?_eq_some_iff.1 otherDenotes)

example : ofName? "\u00a0eS+0002112 " = ofName? "Latest" := by decide

end LanguageWorker.ScriptTarget
