import LanguageWorker.Proofs.Host.DefaultLib
import LanguageWorker.Proofs.OrderedMap

namespace LanguageWorker

/-! Which sources answer for a file. Text and version are looked up along two different
ways: the text never asks for the default declaration file, and the version never asks
for the built-in ones. The main statement says for every file which of the two are
there and where they come from. -/

theorem toString_int_ne_empty (value : Int) : toString value ≠ "" := by
  cases value with
  | ofNat value => exact Nat.repr_ne_empty
  | negSucc value =>
      intro equal
      have lengths := congrArg String.length equal
      simp [toString, Int.repr] at lengths

namespace Host

/-! ## Sources -/

variable {host : Host} {name : String}

/-- A document of that name is open. -/
def IsOpen (host : Host) (name : String) : Prop := (host.directory.model? name).isSome

/-- There is a built-in file of that name or of the name it is short for. -/
def IsBuiltIn (host : Host) (name : String) : Prop :=
  host.libs.contains name ∨ host.libs.contains ("lib." ++ name ++ ".d.ts")

def IsExtra (host : Host) (name : String) : Prop := host.extraLibs.contains name

/-- The file is the default one for the current settings. -/
def IsDefault (host : Host) (name : String) : Prop :=
  host.defaultLibFileName host.settings = name

instance : Decidable (host.IsOpen name) := inferInstanceAs (Decidable (_ = true))

instance : Decidable (host.IsBuiltIn name) := inferInstanceAs (Decidable (_ ∨ _))

instance : Decidable (host.IsExtra name) := inferInstanceAs (Decidable (_ = true))

instance : Decidable (host.IsDefault name) := inferInstanceAs (Decidable (_ = name))

theorem not_isOpen_iff : ¬ host.IsOpen name ↔ host.directory.model? name = none := by
  simp [IsOpen]

theorem isBuiltIn_iff : host.IsBuiltIn name ↔ ∃ text, host.builtInText? name = some text := by
  unfold IsBuiltIn builtInText? shorthand
  cases exact : host.libs.get? name with
  | none =>
      have absent := OrderedMap.not_contains_iff_get?.2 exact
      rw [or_iff_right absent, OrderedMap.contains_iff_get?]
  | some text =>
      have there := OrderedMap.contains_iff_get?.2 ⟨text, exact⟩
      exact iff_of_true (.inl there) ⟨text, rfl⟩

theorem not_isBuiltIn_iff : ¬ host.IsBuiltIn name ↔ host.builtInText? name = none := by
  rw [isBuiltIn_iff, Option.eq_none_iff_forall_ne_some, not_exists]

theorem isDefault_iff : host.isDefaultLibFileName name ↔ host.IsDefault name :=
  beq_iff_eq

/-- A default file that no registry holds goes by one of two names. -/
theorem isDefault_of_absent (isDefault : host.IsDefault name) (notBuiltIn : ¬ host.IsBuiltIn name)
    (notExtra : ¬ host.IsExtra name) : name = "lib.d.ts" ∨ name = "lib.es6.d.ts" := by
  have same : DefaultLib.name host.settings.target host.hasLib = name := isDefault
  have chosen :=
    (DefaultLib.chosen_name host.settings.target host.hasLib).present_or_constant
  rw [same] at chosen
  apply chosen.resolve_left
  intro there
  rcases Bool.or_eq_true_iff.1 there with builtIn | extra
  · exact notBuiltIn (.inl builtIn)
  · exact notExtra extra

/-! ## Texts -/

theorem scriptText?_of_open {document : Document}
    (found : host.directory.model? name = some document) :
    host.scriptText? name = some document.text := by
  simp only [scriptText?, found]

theorem scriptText?_of_builtIn {text : String} (notOpen : ¬ host.IsOpen name)
    (found : host.builtInText? name = some text) : host.scriptText? name = some text := by
  simp only [scriptText?, not_isOpen_iff.1 notOpen, found]

theorem scriptText?_of_not_builtIn (notOpen : ¬ host.IsOpen name)
    (notBuiltIn : ¬ host.IsBuiltIn name) :
    host.scriptText? name = (host.extraLibs.get? name).map ExtraLib.content := by
  simp only [scriptText?, not_isOpen_iff.1 notOpen, not_isBuiltIn_iff.1 notBuiltIn]

/-! ## Versions -/

theorem scriptVersion_of_open {document : Document}
    (found : host.directory.model? name = some document) :
    host.scriptVersion name = toString document.version.toInt := by
  simp only [scriptVersion, found]

theorem scriptVersion_of_default (notOpen : ¬ host.IsOpen name)
    (isDefault : host.IsDefault name) : host.scriptVersion name = "1" := by
  simp only [scriptVersion, not_isOpen_iff.1 notOpen, isDefault_iff.2 isDefault]
  rfl

theorem scriptVersion_of_not_default (notOpen : ¬ host.IsOpen name)
    (notDefault : ¬ host.IsDefault name) :
    host.scriptVersion name =
      ((host.extraLibs.get? name).map fun lib => toString lib.version.toNat).getD "" := by
  have other := notDefault ∘ isDefault_iff.1
  simp only [scriptVersion, not_isOpen_iff.1 notOpen, if_neg other]
  cases host.extraLibs.get? name <;> rfl

/-- A file has a version unless nothing on the way to versions knows it. -/
theorem scriptVersion_eq_empty_iff :
    host.scriptVersion name = "" ↔
      ¬ host.IsOpen name ∧ ¬ host.IsDefault name ∧ ¬ host.IsExtra name := by
  by_cases isOpen : host.IsOpen name
  · rcases Option.isSome_iff_exists.1 isOpen with ⟨document, found⟩
    rw [scriptVersion_of_open found]
    exact iff_of_false (toString_int_ne_empty _) fun absent => absent.1 isOpen
  · by_cases isDefault : host.IsDefault name
    · rw [scriptVersion_of_default isOpen isDefault]
      exact iff_of_false (by decide) fun absent => absent.2.1 isDefault
    · rw [scriptVersion_of_not_default isOpen isDefault]
      cases found : host.extraLibs.get? name with
      | none =>
          have notExtra : ¬ host.IsExtra name := OrderedMap.not_contains_iff_get?.2 found
          exact iff_of_true rfl ⟨isOpen, isDefault, notExtra⟩
      | some lib =>
          have isExtra : host.IsExtra name := OrderedMap.contains_iff_get?.2 ⟨lib, found⟩
          exact iff_of_false Nat.repr_ne_empty fun absent => absent.2.2 isExtra

theorem scriptText?_eq_none_iff :
    host.scriptText? name = none ↔
      ¬ host.IsOpen name ∧ ¬ host.IsBuiltIn name ∧ ¬ host.IsExtra name := by
  by_cases isOpen : host.IsOpen name
  · rcases Option.isSome_iff_exists.1 isOpen with ⟨document, found⟩
    rw [scriptText?_of_open found]
    exact iff_of_false (Option.some_ne_none _) fun absent => absent.1 isOpen
  · by_cases isBuiltIn : host.IsBuiltIn name
    · rcases isBuiltIn_iff.1 isBuiltIn with ⟨text, found⟩
      rw [scriptText?_of_builtIn isOpen found]
      exact iff_of_false (Option.some_ne_none _) fun absent => absent.2.1 isBuiltIn
    · rw [scriptText?_of_not_builtIn isOpen isBuiltIn, Option.map_eq_none_iff]
      simp only [isOpen, isBuiltIn, not_false_eq_true, true_and]
      exact OrderedMap.not_contains_iff_get?.symm

theorem scriptSnapshot?_eq_none_iff :
    host.scriptSnapshot? name = none ↔ host.scriptText? name = none :=
  Option.map_eq_none_iff

theorem builtInText?_of_exact {text : String} (exact : host.libs.get? name = some text) :
    host.builtInText? name = some text := by
  simp only [builtInText?, exact]

theorem builtInText?_of_shorthand (inexact : host.libs.get? name = none) :
    host.builtInText? name = host.libs.get? ("lib." ++ name ++ ".d.ts") := by
  simp only [builtInText?, inexact, shorthand]

/-! ## Texts and versions side by side -/

theorem text_without_version_iff :
    host.scriptText? name ≠ none ∧ host.scriptVersion name = "" ↔
      host.IsBuiltIn name ∧
        ¬ host.IsOpen name ∧ ¬ host.IsDefault name ∧ ¬ host.IsExtra name := by
  rw [Ne, scriptText?_eq_none_iff, scriptVersion_eq_empty_iff]
  constructor
  · intro unversioned
    rcases unversioned with ⟨known, notOpen, notDefault, notExtra⟩
    have isBuiltIn : host.IsBuiltIn name := by
      by_contra notBuiltIn
      exact known ⟨notOpen, notBuiltIn, notExtra⟩
    exact ⟨isBuiltIn, notOpen, notDefault, notExtra⟩
  · intro builtIn
    rcases builtIn with ⟨isBuiltIn, absent⟩
    exact ⟨fun unknown => unknown.2.1 isBuiltIn, absent⟩

theorem version_without_text_iff :
    host.scriptText? name = none ∧ host.scriptVersion name ≠ "" ↔
      host.IsDefault name ∧
        ¬ host.IsOpen name ∧ ¬ host.IsBuiltIn name ∧ ¬ host.IsExtra name := by
  rw [Ne, scriptText?_eq_none_iff, scriptVersion_eq_empty_iff]
  constructor
  · intro textless
    rcases textless with ⟨⟨notOpen, notBuiltIn, notExtra⟩, versioned⟩
    have isDefault : host.IsDefault name := by
      by_contra notDefault
      exact versioned ⟨notOpen, notDefault, notExtra⟩
    exact ⟨isDefault, notOpen, notBuiltIn, notExtra⟩
  · intro nowhere
    rcases nowhere with ⟨isDefault, unknown⟩
    exact ⟨unknown, fun unversioned => unversioned.2.1 isDefault⟩

/-- A version without a text is that of a default file that is nowhere. -/
theorem scriptVersion_of_textless (textless : host.scriptText? name = none)
    (versioned : host.scriptVersion name ≠ "") :
    host.scriptVersion name = "1" ∧ (name = "lib.d.ts" ∨ name = "lib.es6.d.ts") := by
  rcases version_without_text_iff.1 ⟨textless, versioned⟩ with
    ⟨isDefault, notOpen, notBuiltIn, notExtra⟩
  exact ⟨scriptVersion_of_default notOpen isDefault,
    isDefault_of_absent isDefault notBuiltIn notExtra⟩

theorem scriptVersion_of_extra {lib : ExtraLib} (found : host.extraLibs.get? name = some lib)
    (notOpen : ¬ host.IsOpen name) (notDefault : ¬ host.IsDefault name) :
    host.scriptVersion name = toString lib.version.toNat := by
  rw [scriptVersion_of_not_default notOpen notDefault, found]
  rfl

theorem scriptText?_of_extra {lib : ExtraLib} (found : host.extraLibs.get? name = some lib)
    (notOpen : ¬ host.IsOpen name) (notBuiltIn : ¬ host.IsBuiltIn name) :
    host.scriptText? name = some lib.content := by
  rw [scriptText?_of_not_builtIn notOpen notBuiltIn, found]
  rfl

/-- For every file: when it has a version and when a text, that only a built-in file has
a text without a version and only a default file that is nowhere a version without a
text, and which source each of the two is taken from. -/
theorem version_and_text (host : Host) (name : String) :
    (host.scriptVersion name = "" ↔
      ¬ host.IsOpen name ∧ ¬ host.IsDefault name ∧ ¬ host.IsExtra name) ∧
    (host.scriptText? name = none ↔
      ¬ host.IsOpen name ∧ ¬ host.IsBuiltIn name ∧ ¬ host.IsExtra name) ∧
    (host.scriptSnapshot? name = none ↔
      ¬ host.IsOpen name ∧ ¬ host.IsBuiltIn name ∧ ¬ host.IsExtra name) ∧
    (host.scriptText? name ≠ none ∧ host.scriptVersion name = "" ↔
      host.IsBuiltIn name ∧
        ¬ host.IsOpen name ∧ ¬ host.IsDefault name ∧ ¬ host.IsExtra name) ∧
    (host.scriptText? name = none ∧ host.scriptVersion name ≠ "" ↔
      host.IsDefault name ∧
        ¬ host.IsOpen name ∧ ¬ host.IsBuiltIn name ∧ ¬ host.IsExtra name) ∧
    (host.scriptText? name = none → host.scriptVersion name ≠ "" →
      host.scriptVersion name = "1" ∧ (name = "lib.d.ts" ∨ name = "lib.es6.d.ts")) ∧
    (∀ document, host.directory.model? name = some document →
      host.scriptText? name = some document.text ∧
      host.scriptVersion name = toString document.version.toInt) ∧
    (∀ lib, host.extraLibs.get? name = some lib →
      ¬ host.IsOpen name → ¬ host.IsDefault name →
      host.scriptVersion name = toString lib.version.toNat ∧
      (¬ host.IsBuiltIn name → host.scriptText? name = some lib.content) ∧
      (∀ text, host.libs.get? name = some text → host.scriptText? name = some text) ∧
      (∀ text, host.libs.get? name = none →
        host.libs.get? ("lib." ++ name ++ ".d.ts") = some text →
        host.scriptText? name = some text)) := by
  refine ⟨scriptVersion_eq_empty_iff, scriptText?_eq_none_iff, ?_, text_without_version_iff,
    version_without_text_iff, scriptVersion_of_textless, ?_, ?_⟩
  · rw [scriptSnapshot?_eq_none_iff, scriptText?_eq_none_iff]
  · intro document found
    exact ⟨scriptText?_of_open found, scriptVersion_of_open found⟩
  · intro lib found notOpen notDefault
    refine ⟨scriptVersion_of_extra found notOpen notDefault,
      scriptText?_of_extra found notOpen, ?_, ?_⟩
    · intro text exact
      exact scriptText?_of_builtIn notOpen (builtInText?_of_exact exact)
    · intro text inexact short
      exact scriptText?_of_builtIn notOpen ((builtInText?_of_shorthand inexact).trans short)

end Host

end LanguageWorker
