import LanguageWorker.Host
import Mathlib.Data.List.Basic

namespace LanguageWorker

/-! Kinds of files by the endings of their names. A name is taken apart at its last dot, wherever
that stands, but what comes out is a rule about how the name ends: four endings stand for a kind
each, no name has two of them, and where a name has none the options decide. -/

namespace ScriptKind

/-- How the names of files of a kind end. -/
def ending : ScriptKind → String
  | js => ".js"
  | jsx => ".jsx"
  | ts => ".ts"
  | tsx => ".tsx"

/-- A name that ends in a given way, whatever stands in front, be it nothing or further dots. -/
def EndsIn (fileName ending : String) : Prop := ∃ front, fileName = front ++ ending

/-- How file names are read. -/
inductive Reads (fileName : String) (allowJs : Bool) : ScriptKind → Prop
  | byEnding (kind : ScriptKind) (ends : EndsIn fileName kind.ending) :
      Reads fileName allowJs kind
  | otherwise (ends : ∀ kind : ScriptKind, ¬ EndsIn fileName kind.ending) :
      Reads fileName allowJs (if allowJs then js else ts)

variable {fileName : String} {allowJs : Bool} {kind : ScriptKind}

theorem ofExtension?_eq_some_iff {extension : List Char} :
    ofExtension? extension = some kind ↔ kind.ending.toList = '.' :: extension := by
  constructor
  · intro found
    unfold ofExtension? at found
    split_ifs at found <;> cases found <;> subst extension <;> rfl
  · intro letters
    cases kind <;> exact (List.cons.inj letters).2 ▸ rfl

/-- An ending begins with its only dot. -/
theorem exists_toList_ending (kind : ScriptKind) :
    ∃ extension, kind.ending.toList = '.' :: extension ∧ '.' ∉ extension := by
  cases kind <;> exact ⟨_, rfl, by decide⟩

/-- What stands behind the last dot tells an ending, because the ending has no other dot. -/
theorem endsIn_ending_iff :
    EndsIn fileName kind.ending ↔
      Text.behindLast? '.' fileName.toList >>= ofExtension? = some kind := by
  simp only [bind, Option.bind_eq_some_iff, Text.behindLast?_eq_some_iff, ofExtension?_eq_some_iff]
  constructor
  · intro ends
    rcases ends with ⟨front, rfl⟩
    rcases exists_toList_ending kind with ⟨extension, letters, absent⟩
    refine ⟨extension, ⟨absent, front.toList, ?_⟩, letters⟩
    rw [String.toList_append, letters]
  · intro described
    rcases described with ⟨extension, ⟨_, front, split⟩, letters⟩
    refine ⟨String.ofList front, String.toList_inj.1 ?_⟩
    rw [String.toList_append, String.toList_ofList, letters, split]

theorem EndsIn.unique {other : ScriptKind} (ends : EndsIn fileName kind.ending)
    (endsToo : EndsIn fileName other.ending) : kind = other :=
  Option.some.inj ((endsIn_ending_iff.1 ends).symm.trans (endsIn_ending_iff.1 endsToo))

theorem ofFileName_of_endsIn (ends : EndsIn fileName kind.ending) :
    ofFileName fileName allowJs = kind := by
  rw [ofFileName, endsIn_ending_iff.1 ends]

theorem ofFileName_of_not_endsIn (ends : ∀ kind : ScriptKind, ¬ EndsIn fileName kind.ending) :
    ofFileName fileName allowJs = if allowJs then js else ts := by
  have unknown : Text.behindLast? '.' fileName.toList >>= ofExtension? = none :=
    Option.eq_none_iff_forall_ne_some.2 fun kind found => ends kind (endsIn_ending_iff.2 found)
  rw [ofFileName, unknown]

theorem ofFileName_eq_iff : ofFileName fileName allowJs = kind ↔ Reads fileName allowJs kind := by
  constructor
  · rintro rfl
    by_cases known : ∃ kind : ScriptKind, EndsIn fileName kind.ending
    · rcases known with ⟨kind, ends⟩
      rw [ofFileName_of_endsIn ends]
      exact .byEnding kind ends
    · rw [ofFileName_of_not_endsIn (not_exists.1 known)]
      exact .otherwise (not_exists.1 known)
  · intro reads
    cases reads with
    | byEnding _ ends => exact ofFileName_of_endsIn ends
    | otherwise ends => exact ofFileName_of_not_endsIn ends

/-- The kind of every file is read off the ending of its name, and only for want of one off the
options. A name has one ending at most, and once it has a dot it does not matter what stands in
front of it. A host reads names by what its own settings allow. -/
theorem ofFileName_readsEnding (fileName : String) (allowJs : Bool) :
    (∀ kind, ofFileName fileName allowJs = kind ↔ Reads fileName allowJs kind) ∧
    (∀ kind other : ScriptKind,
      EndsIn fileName kind.ending → EndsIn fileName other.ending → kind = other) ∧
    (∀ front, '.' ∈ fileName.toList →
      ofFileName (front ++ fileName) allowJs = ofFileName fileName allowJs) ∧
    ∀ (host : Host) (kind : ScriptKind),
      host.scriptKind fileName = kind ↔ Reads fileName host.settings.allowsJs kind := by
  refine ⟨fun _ => ofFileName_eq_iff, fun _ _ => EndsIn.unique, ?_, fun _ _ => ofFileName_eq_iff⟩
  intro front dotted
  rw [ofFileName, String.toList_append, Text.behindLast?_append_of_mem dotted, ← ofFileName]

end ScriptKind

end LanguageWorker
