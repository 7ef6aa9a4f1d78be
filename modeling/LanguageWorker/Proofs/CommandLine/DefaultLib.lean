import LanguageWorker.Proofs.CommandLine.Arguments
import LanguageWorker.Proofs.CommandLine.Stages
import LanguageWorker.Proofs.Payload.Loaded
import LanguageWorker.Proofs.Payload.WithTarget
import LanguageWorker.Proofs.Script.Target
import Mathlib

namespace LanguageWorker.CommandLine

/-! The default file for a target that stands on the command line. A target is read there by
other ways than in a payload. The main statement says that this makes no difference: for every
text, what is told is what would be told for the payload with that target in it. -/

theorem target?_eq_some_iff {raw : String} {target : ScriptTarget} :
    target? raw = some target ↔
      ScriptTarget.decoder.ofJson (ScriptTarget.itemOf raw) = .ok target := by
  rw [ScriptTarget.ofJson_itemOf_iff, target?]
  cases numeral : Text.word? raw.toList with
  | some ordinal =>
      have noName := (ScriptTarget.word?_eq_none_or_ofName?_eq_none raw).resolve_left
        (numeral ▸ nofun)
      rw [noName, or_iff_left nofun]
      constructor
      · intro same
        cases same
        rfl
      · intro same
        cases same
        rfl
  | none => exact (or_iff_right nofun).symm

theorem target?_eq_none_iff {raw : String} :
    target? raw = none ↔
      ∃ cause, ScriptTarget.decoder.ofJson (ScriptTarget.itemOf raw) = .error cause := by
  rw [Option.eq_none_iff_forall_ne_some]
  simp only [Ne, target?_eq_some_iff]
  cases ScriptTarget.decoder.ofJson (ScriptTarget.itemOf raw) with
  | error cause => exact iff_of_true nofun ⟨cause, rfl⟩
  | ok target => exact iff_of_false (fun none => none target rfl) nofun

/-- Only which extra files there are matters, not their order. -/
theorem defaultFile_sorted (target : Option ScriptTarget) (libs : LibRegistry)
    (extraLibs : ExtraLibs) :
    defaultFile target libs extraLibs.sorted = defaultFile target libs extraLibs := by
  simp only [defaultFile, OrderedMap.contains_sorted]

theorem print_defaultLib (payload : Payload) (libs : LibRegistry) (store : Store) :
    print (hostOf payload libs store) (.defaultLib none) =
      .ok (defaultFile payload.compilerOptions.target libs payload.extraLibs ++ "\n") :=
  rfl

section Loaded

variable {files : FileSystem Id} {environment : Environment} {config libDir : Option String}
  {payload : Payload} {libs : LibRegistry}
  (resolved : Payload.resolve files environment config = .ok payload)
  (found : loadLibraries files libDir = .ok libs)
include resolved found

theorem run_defaultLib :
    run files environment ⟨config, libDir, .defaultLib none⟩ =
      .ok (defaultFile payload.compilerOptions.target libs payload.extraLibs ++ "\n") :=
  run_of_loaded resolved found rfl

theorem run_defaultLib_of_target {raw : String} {target : ScriptTarget}
    (read : target? raw = some target) :
    run files environment ⟨config, libDir, .defaultLib (some raw)⟩ =
      .ok (defaultFile (some target) libs payload.extraLibs ++ "\n") := by
  refine (run_of_loaded resolved found rfl).trans ?_
  simp only [print, read]
  rfl

theorem run_defaultLib_of_unknown {raw : String} (unknown : target? raw = none) :
    run files environment ⟨config, libDir, .defaultLib (some raw)⟩ =
      .error (.unknownTarget raw) := by
  refine (run_of_loaded resolved found rfl).trans ?_
  simp only [print, unknown]

end Loaded

/-- What is told about a target of the command line, next to the payload that is loaded and the
documents of that payload. -/
structure ToldAsInPayload (raw : String) (payload : Payload) (libs : LibRegistry)
    (told : Except Failure String) : Prop where
  printed_iff : (∃ name, told = .ok (name ++ "\n")) ↔
    ∃ target, ScriptTarget.decoder.ofJson (ScriptTarget.itemOf raw) = .ok target
  unknown_iff : told = .error (.unknownTarget raw) ↔
    ∃ cause, ScriptTarget.decoder.ofJson (ScriptTarget.itemOf raw) = .error cause
  /-- There is a document of the payload. -/
  written : payload.toJson.Sorted ∧ payload.GivenBy payload.toJson
  accepted_iff : ∀ document, document.Sorted → payload.GivenBy document →
    ((∃ other, Payload.decoder.ofJson
        (Payload.setTarget (ScriptTarget.itemOf raw) document) = .ok other) ↔
      ∃ target, ScriptTarget.decoder.ofJson (ScriptTarget.itemOf raw) = .ok target)
  /-- The same is told for the payload that the changed document is read as. -/
  told_eq : ∀ document, document.Sorted → payload.GivenBy document →
    ∀ other, Payload.decoder.ofJson
        (Payload.setTarget (ScriptTarget.itemOf raw) document) = .ok other →
      told = print (hostOf other libs .empty) (.defaultLib none)
  /-- And so it is told wherever a payload of the changed document is loaded from. -/
  told_eq_run : ∀ document, document.Sorted → payload.GivenBy document →
    ∀ (files : FileSystem Id) (environment : Environment) (config libDir : Option String)
      (other : Payload), Payload.resolve files environment config = .ok other →
      other.GivenBy (Payload.setTarget (ScriptTarget.itemOf raw) document) →
      loadLibraries files libDir = .ok libs →
      told = run files environment ⟨config, libDir, .defaultLib none⟩

section Told

variable {raw : String} {files : FileSystem Id} {environment : Environment}
  {config libDir : Option String} {payload : Payload} {libs : LibRegistry}
  (resolved : Payload.resolve files environment config = .ok payload)
  (found : loadLibraries files libDir = .ok libs)
include resolved found

theorem printed_iff :
    (∃ name, run files environment ⟨config, libDir, .defaultLib (some raw)⟩ =
      .ok (name ++ "\n")) ↔ ∃ target, target? raw = some target := by
  cases read : target? raw with
  | none =>
      rw [run_defaultLib_of_unknown resolved found read]
      exact iff_of_false nofun nofun
  | some target =>
      rw [run_defaultLib_of_target resolved found read]
      exact iff_of_true ⟨_, rfl⟩ ⟨target, rfl⟩

theorem unknown_iff :
    run files environment ⟨config, libDir, .defaultLib (some raw)⟩ = .error (.unknownTarget raw) ↔
      target? raw = none := by
  cases read : target? raw with
  | none => exact iff_of_true (run_defaultLib_of_unknown resolved found read) rfl
  | some target =>
      rw [run_defaultLib_of_target resolved found read]
      exact iff_of_false nofun nofun

/-- A payload that is read with the target has the target's line for its own. -/
theorem run_defaultLib_of_setTarget {other : Payload} {document : Json}
    (sorted : document.Sorted) (given : payload.GivenBy document)
    (changed : Payload.decoder.ofJson
      (Payload.setTarget (ScriptTarget.itemOf raw) document) = .ok other) :
    run files environment ⟨config, libDir, .defaultLib (some raw)⟩ =
      .ok (defaultFile other.compilerOptions.target libs other.extraLibs ++ "\n") := by
  rcases (Payload.ofJson_setTarget_iff sorted given).1 changed with ⟨_, reads, rfl⟩
  rcases ScriptTarget.option_ofJson_itemOf_iff.1 reads with ⟨target, read, rfl⟩
  rw [run_defaultLib_of_target resolved found (target?_eq_some_iff.2 read)]
  have same := defaultFile_sorted (some target) libs payload.extraLibs
  exact congrArg (fun name => Except.ok (name ++ "\n")) same.symm

end Told

theorem toldAsInPayload {raw : String} {files : FileSystem Id} {environment : Environment}
    {config libDir : Option String} {payload : Payload} {libs : LibRegistry}
    (resolved : Payload.resolve files environment config = .ok payload)
    (found : loadLibraries files libDir = .ok libs) :
    ToldAsInPayload raw payload libs
      (run files environment ⟨config, libDir, .defaultLib (some raw)⟩) where
  printed_iff := by
    rw [printed_iff resolved found]
    simp only [target?_eq_some_iff]
  unknown_iff := (unknown_iff resolved found).trans target?_eq_none_iff
  written := by
    have loaded := Payload.loaded_of_resolve resolved
    exact ⟨Payload.sorted_toJson loaded, Payload.givenBy_toJson loaded.compilerOptions.apart⟩
  accepted_iff := by
    intro document sorted given
    rw [Payload.exists_ofJson_setTarget_iff sorted given]
    simp only [ScriptTarget.option_ofJson_itemOf_iff]
    constructor
    · intro accepted
      rcases accepted with ⟨_, target, read, _⟩
      exact ⟨target, read⟩
    · intro described
      rcases described with ⟨target, read⟩
      exact ⟨_, target, read, rfl⟩
  told_eq := by
    intro document sorted given other changed
    rw [run_defaultLib_of_setTarget resolved found sorted given changed, print_defaultLib]
  told_eq_run := by
    intro document sorted given files environment config libDir other resolvedOther changed
      foundOther
    rw [run_defaultLib_of_setTarget resolved found sorted given changed,
      run_defaultLib resolvedOther foundOther, defaultFile_sorted]

/-- No text is both a number and a name of a target, and any text can stand as a target on the
command line. With any payload and any built-in files that can be loaded, what is then told is
what is told for the payload whose target is set to the number that the text denotes, or else to
the text. -/
theorem run_defaultLib_target (raw : String) :
    (Text.word? raw.toList = none ∨ ScriptTarget.ofName? raw = none) ∧
    (∀ invocation : Invocation, invocation.action = .defaultLib (some raw) → invocation.Proper →
      parse invocation.arguments = .run invocation) ∧
    ∀ (files : FileSystem Id) (environment : Environment) (config libDir : Option String)
      (payload : Payload) (libs : LibRegistry),
      Payload.resolve files environment config = .ok payload →
      loadLibraries files libDir = .ok libs →
      ToldAsInPayload raw payload libs
        (run files environment ⟨config, libDir, .defaultLib (some raw)⟩) :=
  ⟨ScriptTarget.word?_eq_none_or_ofName?_eq_none raw, fun _ _ proper => parse_arguments proper,
    fun _ _ _ _ _ _ resolved found => toldAsInPayload resolved found⟩

/-- A machine with one file. -/
def oneFile (path text : String) : FileSystem Id where
  read other := if other = path then .ok text.toUTF8 else .error .notFound
  list _ := .error .notDirectory
  exists? other := other == path
  canonical other := if other = path then .ok path else .error .notFound

/-- An extra file that serves as the default one of a year. -/
def withExtra2017 (target : Option ScriptTarget) : Payload :=
  { Payload.empty with
    compilerOptions := { CompilerOptions.empty with target }
    extraLibs := .ofList [("lib.es2017.full.d.ts", { content := "", version := 1 })] }

def plainText : String := "\x7b\"extraLibs\":\x7b\"lib.es2017.full.d.ts\":[\"\",1]\x7d\x7d"

/-- The same document with a target. -/
def changedText : String :=
  "\x7b\"compilerOptions\":\x7b\"target\":\"es2017\"\x7d," ++
    "\"extraLibs\":\x7b\"lib.es2017.full.d.ts\":[\"\",1]\x7d\x7d"

theorem ofJsonText_plainText : Payload.ofJsonText plainText = .ok (withExtra2017 none) := by
  cbv

theorem ofJsonText_changedText :
    Payload.ofJsonText changedText = .ok (withExtra2017 (some ⟨4⟩)) := by
  cbv

theorem resolve_oneFile {text : String} {payload : Payload}
    (read : Payload.ofJsonText text = .ok payload) (environment : Environment) :
    Payload.resolve (oneFile "w.json" text) environment (some "w.json") = .ok payload := by
  have json : Path.extension? "w.json" = some "json" := by decide +kernel
  exact Payload.load_of_json json rfl read

theorem run_defaultLib_target_es2017 :
    let asked (target : Option String) : Invocation := ⟨some "w.json", none, .defaultLib target⟩
    let plain := oneFile "w.json" plainText
    let changed := oneFile "w.json" changedText
    (asked (some "es2017")).Proper ∧
    parse ["--config=w.json", "default-lib", "--target=es2017"] = .run (asked (some "es2017")) ∧
    Payload.resolve plain ⟨none, none⟩ (some "w.json") = .ok (withExtra2017 none) ∧
    loadLibraries plain none = .ok .empty ∧
    run plain ⟨none, none⟩ (asked (some "es2017")) = run changed ⟨none, none⟩ (asked none) ∧
    run changed ⟨none, none⟩ (asked none) = .ok "lib.es2017.full.d.ts\n" := by
  intro asked plain changed
  have agrees := run_defaultLib_target "es2017"
  have proper : (asked (some "es2017")).Proper := ⟨by decide, by decide, by decide⟩
  have resolved : Payload.resolve plain ⟨none, none⟩ (some "w.json") = .ok (withExtra2017 none) :=
    resolve_oneFile ofJsonText_plainText _
  have resolvedChanged : Payload.resolve changed ⟨none, none⟩ (some "w.json") =
      .ok (withExtra2017 (some ⟨4⟩)) :=
    resolve_oneFile ofJsonText_changedText _
  have found : loadLibraries plain none = .ok .empty := rfl
  have told := agrees.2.2 plain ⟨none, none⟩ (some "w.json") none _ _ resolved found
  have target : ScriptTarget.decoder.option.ofJson (ScriptTarget.itemOf "es2017") =
      .ok (some ⟨4⟩) := by
    decide +kernel
  have given : (withExtra2017 (some ⟨4⟩)).GivenBy
      (Payload.setTarget (ScriptTarget.itemOf "es2017") (withExtra2017 none).toJson) :=
    (Payload.ofJson_setTarget_iff told.written.1 told.written.2).2 ⟨some ⟨4⟩, target, rfl⟩
  refine ⟨proper, agrees.2.1 _ rfl proper, resolved, found, ?_, ?_⟩
  · exact told.told_eq_run _ told.written.1 told.written.2 changed ⟨none, none⟩ (some "w.json") none
      _ resolvedChanged given rfl
  · rw [run_defaultLib resolvedChanged rfl]
    exact congrArg Except.ok (by decide +kernel)

end LanguageWorker.CommandLine
