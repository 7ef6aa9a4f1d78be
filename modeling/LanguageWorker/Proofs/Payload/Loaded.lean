import LanguageWorker.Payload.File
import LanguageWorker.Proofs.Decode.Loads
import LanguageWorker.Proofs.Files.Tree
import LanguageWorker.Proofs.Payload.NormalForm

namespace LanguageWorker

/-! Payloads that come out of files. Whatever the format, the options of such a payload are
told apart and the values that it carries along are in order, so that its written form is
in order throughout and gives it back. -/

namespace CompilerOptions

/-- Known and other options are told apart, and the others are in order. -/
structure Loaded (options : CompilerOptions) : Prop where
  apart : options.Apart
  sorted : ∀ member ∈ options.other.members, member.2.Sorted

theorem loaded_empty : empty.Loaded where
  apart := ⟨rfl, rfl⟩
  sorted := List.forall_mem_nil _

theorem loads : decoder.Loads Loaded := by
  apply Decoder.Loads.map
  refine (record.loads_true.openDecoder "CompilerOptions").imp fun read both => ?_
  have unknown (key : String) (named : key ∈ record.names) : read.2.get? key = none :=
    Json.Object.get?_eq_none_iff.2 fun _ listed => (both.2 _ listed).1 named
  exact {
    apart := ⟨unknown "target" (by decide), unknown "allowJs" (by decide)⟩
    sorted := fun member listed => (both.2 member listed).2 }

theorem sorted_toJson {options : CompilerOptions} (loaded : options.Loaded) :
    options.toJson.Sorted := by
  apply Json.sorted_ofMembers
  rintro ⟨key, value⟩ listed
  simp only [List.mem_append, Json.mem_member?_iff, Option.map_eq_some_iff] at listed
  rcases listed with (⟨_, target, _, rfl⟩ | ⟨_, allowed, _, rfl⟩) | other
  · exact Json.sorted_ofWord target.ordinal
  · exact .boolean allowed
  · exact loaded.sorted (key, value) other

end CompilerOptions

theorem ExtraLibs.sorted_toJson (libs : ExtraLibs) : (toJson libs).Sorted := by
  apply Json.sorted_ofMembers
  intro member listed
  rcases List.mem_map.1 listed with ⟨⟨name, lib⟩, _, rfl⟩
  have before : "content" < "version" := by decide
  have ordered : Json.Ordered
      [("content", .string lib.content), ("version", .ofWord lib.version)] :=
    List.pairwise_pair.2 before
  refine Json.sorted_object_iff.2 ⟨ordered, ?_⟩
  simp

namespace Payload

/-- What loading a payload settles. -/
structure Loaded (payload : Payload) : Prop where
  compilerOptions : payload.compilerOptions.Loaded
  inlayHints : ∀ preferences ∈ payload.inlayHintsOptions, preferences.toJson.Sorted

theorem loaded_empty : empty.Loaded where
  compilerOptions := CompilerOptions.loaded_empty
  inlayHints := nofun

theorem loads : decoder.Loads Loaded := by
  have compilerOptions : compilerOptionsField.Loads CompilerOptions.Loaded :=
    Record.loads_defaulted CompilerOptions.loads CompilerOptions.loaded_empty
  have inlayHints : inlayHintsOptionsField.Loads
      fun preferences? => ∀ preferences ∈ preferences?, preferences.toJson.Sorted :=
    Record.loads_optional Decoder.loads_object
  have others := extraLibsField.loads_true.and (customWorkerPathField.loads_true.and inlayHints)
  refine Record.Loads.decoder (Record.Loads.map ?_) "CreateData"
  refine (compilerOptions.and others).imp fun fields both => ?_
  exact ⟨both.1, both.2.2.2⟩

theorem sorted_toJson {payload : Payload} (loaded : payload.Loaded) : payload.toJson.Sorted := by
  apply Json.sorted_ofMembers
  rintro ⟨key, value⟩ listed
  simp only [List.mem_append, List.mem_cons, List.not_mem_nil, or_false, Prod.mk.injEq,
    Json.mem_member?_iff, Option.map_eq_some_iff] at listed
  rcases listed with
    ((⟨_, rfl⟩ | ⟨_, rfl⟩) | ⟨_, path, _, rfl⟩) | ⟨_, preferences, there, rfl⟩
  · exact CompilerOptions.sorted_toJson loaded.compilerOptions
  · exact ExtraLibs.sorted_toJson payload.extraLibs
  · exact .string path
  · exact loaded.inlayHints preferences there

/-! ## Files -/

theorem loaded_of_parse {text : String} {payload : Payload}
    (parsed : decoder.parse text = .ok payload) : payload.Loaded := by
  rcases Results.bind_eq_ok_iff.1 parsed with ⟨⟨other, rest⟩, read, finished⟩
  have loaded : other.Loaded := loads.ofText _ _ other rest read
  dsimp only at finished
  split at finished
  · cases finished
    exact loaded
  · cases finished

theorem loaded_of_ofJsonText {text : String} {payload : Payload}
    (read : ofJsonText text = .ok payload) : payload.Loaded := by
  unfold ofJsonText at read
  split at read
  · next parsed =>
      cases read
      exact loaded_of_parse parsed
  · cases read

theorem loaded_of_ofTomlText {text : String} {payload : Payload}
    (read : ofTomlText text = .ok payload) : payload.Loaded := by
  unfold ofTomlText at read
  split at read
  · cases read
  · split at read
    · next parsed =>
        cases read
        exact loads.ofToml _ payload parsed
    · cases read

theorem loaded_of_ofFileText {path text : String} {payload : Payload}
    (read : ofFileText path text = .ok payload) : payload.Loaded := by
  simp only [ofFileText] at read
  split at read
  · cases read
  · next format given =>
      split at read
      · next parsed =>
          cases read
          split at given
          · cases given
            exact loaded_of_ofJsonText parsed
          · cases given
            exact loaded_of_ofTomlText parsed
          · cases given
      · cases read

theorem ofFileText_of_json {path text : String} {payload : Payload}
    (json : Path.extension? path = some "json") (read : ofJsonText text = .ok payload) :
    ofFileText path text = .ok payload := by
  simp only [ofFileText, json, read]

variable {files : FileSystem Id} {payload : Payload}

theorem load_eq_ok_iff {path : String} :
    load files path = .ok payload ↔
      ∃ text, files.readText path = .ok text ∧ ofFileText path text = .ok payload := by
  simp only [load, bind, pure]
  cases files.readText path with
  | error cause => exact iff_of_false nofun nofun
  | ok text =>
      constructor
      · intro read
        exact ⟨text, rfl, read⟩
      · intro described
        rcases described with ⟨_, same, read⟩
        cases same
        exact read

/-- The payload of a file that holds it as JSON. -/
theorem load_of_json {path text : String} (json : Path.extension? path = some "json")
    (content : files.read path = .ok text.toUTF8) (read : ofJsonText text = .ok payload) :
    load files path = .ok payload :=
  load_eq_ok_iff.2 ⟨text, FileSystem.readText_of_read content, ofFileText_of_json json read⟩

theorem loaded_of_load {path : String} (loads : load files path = .ok payload) :
    payload.Loaded := by
  rcases load_eq_ok_iff.1 loads with ⟨text, _, read⟩
  exact loaded_of_ofFileText read

theorem loaded_of_loadUser {environment : Environment} {payload? : Option Payload}
    (found : loadUser files environment = .ok payload?) :
    ∀ payload ∈ payload?, payload.Loaded := by
  simp only [loadUser, bind, pure] at found
  split at found
  · cases found
    exact nofun
  · split at found
    · rcases Results.map_eq_ok_iff.1 found with ⟨payload, loads, rfl⟩
      intro other same
      cases same
      exact loaded_of_load loads
    · cases found
      exact nofun

/-- Every payload to work with, wherever it comes from. -/
theorem loaded_of_resolve {environment : Environment} {explicit : Option String}
    (resolved : resolve files environment explicit = .ok payload) : payload.Loaded := by
  cases explicit with
  | some path => exact loaded_of_load resolved
  | none =>
      rcases Results.map_eq_ok_iff.1 resolved with ⟨payload?, found, rfl⟩
      cases payload? with
      | none => exact loaded_empty
      | some payload => exact loaded_of_loadUser found payload rfl

end Payload

end LanguageWorker
