import LanguageWorker.Proofs.Payload.NormalForm

namespace LanguageWorker

/-! Payloads whose target is set to a value. A payload is an object or an array of its parts, and
its target is a member of the first part. The main lemma says that such a payload is read as
before but for its target, and is refused exactly where the value is no target. -/

namespace Json

/-- Setting a member changes only the members of its key. -/
theorem filter_putMember {key : String} {keep : String × Json → Bool}
    (drops : ∀ value, keep (key, value) = false) (value : Json) (members : List (String × Json)) :
    (putMember key value members).filter keep = members.filter keep := by
  have dropped (value : Json) : ¬ keep (key, value) := by simp [drops]
  induction members with
  | nil => simp [putMember, drops]
  | cons first rest induction =>
      unfold putMember
      split
      · rw [List.filter_cons_of_neg (dropped _)]
      · split
        · next same =>
            rcases first with ⟨_, other⟩
            cases same
            rw [List.filter_cons_of_neg (dropped _), List.filter_cons_of_neg (dropped _)]
        · rw [List.filter_cons, List.filter_cons, induction]

theorem mem_putMember_self (key : String) (value : Json) (members : List (String × Json)) :
    (key, value) ∈ putMember key value members := by
  induction members with
  | nil => exact List.mem_singleton_self _
  | cons first rest induction =>
      unfold putMember
      split
      · exact List.mem_cons_self
      · split
        · exact List.mem_cons_self
        · exact List.mem_cons_of_mem first induction

/-- An object with a member set to a value. -/
def setMember (item : Json) (key : String) (value : Json) : Json :=
  match item with
  | .object members => .object (putMember key value members)
  | other => other

end Json

namespace Record

variable {α : Type} {key : String} {item : Json} {members : List (String × Json)}

theorem ofMembers_putMember_of_unknown {record : Record α} (unknown : key ∉ record.names) :
    record.ofMembers (Json.putMember key item members) = record.ofMembers members := by
  rw [← ofMembers_without unknown, Json.filter_putMember (by simp), ofMembers_without unknown]

theorem ofMembers_defaulted_putMember_iff {decoder : Decoder α} {default value : α}
    (ordered : Json.Ordered members) :
    (defaulted key decoder default).ofMembers (Json.putMember key item members) = .ok value ↔
      decoder.ofJson item = .ok value := by
  have listed := Json.mem_putMember_self key item members
  have orderedSet : Json.Ordered (Json.putMember key item members) :=
    Json.ordered_putMember ordered
  rw [ofMembers_defaulted_eq_ok_iff orderedSet]
  constructor
  · intro read
    rcases read with ⟨missing, _⟩ | ⟨other, otherListed, read⟩
    · exact absurd listed (missing item)
    · exact orderedSet.value_unique otherListed listed ▸ read
  · exact fun read => .inr ⟨item, listed, read⟩

theorem surplus_putMember_of_known {record : Record α} (known : key ∈ record.names) :
    record.surplus (Json.putMember key item members) = record.surplus members :=
  Json.filter_putMember (by simp [known]) item members

end Record

namespace CompilerOptions

variable {options other : CompilerOptions} {item : Json}

/-- Options whose target is set are read as before but for the target. -/
theorem ofJson_setMember_target_iff {members : List (String × Json)}
    (ordered : Json.Ordered members) (read : decoder.ofJson (.object members) = .ok options) :
    decoder.ofJson (.object (Json.putMember "target" item members)) = .ok other ↔
      ∃ target, ScriptTarget.decoder.option.ofJson item = .ok target ∧
        other = { options with target } := by
  rcases ofJson_eq_ok_iff.1 read with ⟨members, same, _, allowJs, rest⟩
  cases same
  have unknown : "target" ∉ (Record.optional "allowJs" Decoder.boolean).names := by
    simp [Record.optional, Record.defaulted, Record.names_field]
  have known : "target" ∈ record.names := List.mem_cons_self
  have setTarget {target : Option ScriptTarget} :
      (Record.optional "target" ScriptTarget.decoder).ofMembers
        (Json.putMember "target" item members) = .ok target ↔
      ScriptTarget.decoder.option.ofJson item = .ok target :=
    Record.ofMembers_defaulted_putMember_iff ordered
  rw [ofJson_eq_ok_iff]
  constructor
  · intro described
    rcases described with ⟨_, same, target, others, kept⟩
    cases same
    rw [Record.ofMembers_putMember_of_unknown unknown, allowJs] at others
    rw [Record.surplus_putMember_of_known known, rest] at kept
    refine ⟨other.target, setTarget.1 target, ?_⟩
    cases other
    cases others
    cases kept
    rfl
  · intro described
    rcases described with ⟨target, reads, rfl⟩
    refine ⟨_, rfl, setTarget.2 reads, ?_, ?_⟩
    · rw [Record.ofMembers_putMember_of_unknown unknown, allowJs]
    · rw [Record.surplus_putMember_of_known known, rest]

end CompilerOptions

namespace Payload

/-- A document whose target is set to a value. Options that it leaves out are added for it. -/
def setTarget (item : Json) : Json → Json
  | .object members =>
      let options := (members.lookup "compilerOptions").getD (.object [])
      .object (Json.putMember "compilerOptions" (options.setMember "target" item) members)
  | .array [] => .array [.object [("target", item)]]
  | .array (options :: rest) => .array (options.setMember "target" item :: rest)
  | document => document

/-- The same payload with another target. -/
def withTarget (payload : Payload) (target : Option ScriptTarget) : Payload :=
  { payload with compilerOptions := { payload.compilerOptions with target } }

variable {payload other : Payload} {item : Json}

theorem ofJson_setMember_target_iff {part : Json} {options others : CompilerOptions}
    (sorted : part.Sorted) (read : CompilerOptions.decoder.ofJson part = .ok options) :
    CompilerOptions.decoder.ofJson (part.setMember "target" item) = .ok others ↔
      ∃ target, ScriptTarget.decoder.option.ofJson item = .ok target ∧
        others = { options with target } := by
  rcases CompilerOptions.ofJson_eq_ok_iff.1 read with ⟨members, rfl, _⟩
  exact CompilerOptions.ofJson_setMember_target_iff sorted.ordered read

/-! ## Objects -/

/-- Options that are left out are read as an empty object is. -/
theorem part_of_ofMembers {members : List (String × Json)} {options : CompilerOptions}
    (sorted : (Json.object members).Sorted)
    (read : compilerOptionsField.ofMembers members = .ok options) :
    let part := (members.lookup "compilerOptions").getD (.object [])
    part.Sorted ∧ CompilerOptions.decoder.ofJson part = .ok options := by
  intro part
  cases found : members.lookup "compilerOptions" with
  | none =>
      have absent := Json.lookup_eq_none_iff.1 found
      have empty : part = .object [] := congrArg (Option.getD · _) found
      rcases (Record.ofMembers_defaulted_eq_ok_iff sorted.ordered).1 read with
        ⟨_, rfl⟩ | ⟨given, listed, _⟩
      · rw [empty]
        exact ⟨.object .nil (List.forall_mem_nil _), rfl⟩
      · exact absurd listed (absent given)
  | some value =>
      have listed := Json.mem_of_lookup found
      have same : part = value := congrArg (Option.getD · _) found
      rcases (Record.ofMembers_defaulted_eq_ok_iff sorted.ordered).1 read with
        ⟨absent, _⟩ | ⟨given, givenListed, reads⟩
      · exact absurd listed (absent value)
      · rw [same, sorted.ordered.value_unique listed givenListed]
        exact ⟨sorted.of_mem_object givenListed, reads⟩

theorem ofJson_object_setTarget_iff {members : List (String × Json)}
    (sorted : (Json.object members).Sorted)
    (read : decoder.ofJson (.object members) = .ok payload) :
    decoder.ofJson (setTarget item (.object members)) = .ok other ↔
      ∃ target, ScriptTarget.decoder.option.ofJson item = .ok target ∧
        other = payload.withTarget target := by
  rcases ofJson_object_eq_ok_iff.1 read with ⟨options, libs, path, hints⟩
  rcases part_of_ofMembers sorted options with ⟨sortedPart, readPart⟩
  have unknown : "compilerOptions" ∉ extraLibsField.names ∧
      "compilerOptions" ∉ customWorkerPathField.names ∧
      "compilerOptions" ∉ inlayHintsOptionsField.names := by
    simp [names]
  rw [setTarget, ofJson_object_eq_ok_iff, compilerOptionsField,
    Record.ofMembers_defaulted_putMember_iff sorted.ordered,
    ofJson_setMember_target_iff sortedPart readPart,
    Record.ofMembers_putMember_of_unknown unknown.1,
    Record.ofMembers_putMember_of_unknown unknown.2.1,
    Record.ofMembers_putMember_of_unknown unknown.2.2, libs, path, hints]
  constructor
  · intro described
    rcases described with ⟨⟨target, reads, same⟩, sameLibs, samePath, sameHints⟩
    refine ⟨target, reads, ?_⟩
    cases other
    cases same
    cases sameLibs
    cases samePath
    cases sameHints
    rfl
  · intro described
    rcases described with ⟨target, reads, rfl⟩
    exact ⟨⟨target, reads, rfl⟩, rfl, rfl, rfl⟩

/-! ## Arrays -/

/-- An array gives the options first, and then what comes behind them. -/
theorem ofJson_array_eq_ok_iff {items : List Json} :
    decoder.ofJson (.array items) = .ok payload ↔
      ∃ rest, compilerOptionsField.ReadsItems items payload.compilerOptions rest ∧
        (extraLibsField.and (customWorkerPathField.and inlayHintsOptionsField)).ReadsItems rest
          (payload.extraLibs, payload.customWorkerPath, payload.inlayHintsOptions) [] := by
  refine Record.decoder_ofJson_array_iff.trans ?_
  rw [record_eq, Record.readsItems_map_iff]
  constructor
  · intro read
    rcases read with ⟨fields, reads, rfl⟩
    exact Record.readsItems_and_iff.1 reads
  · intro described
    exact ⟨(_, _, _, _), Record.readsItems_and_iff.2 described, rfl⟩

theorem ofJson_array_setTarget_iff {items : List Json} (sorted : (Json.array items).Sorted)
    (read : decoder.ofJson (.array items) = .ok payload) :
    decoder.ofJson (setTarget item (.array items)) = .ok other ↔
      ∃ target, ScriptTarget.decoder.option.ofJson item = .ok target ∧
        other = payload.withTarget target := by
  rcases ofJson_array_eq_ok_iff.1 read with ⟨rest, first, later⟩
  -- The first item of the changed array is read as the options with the target.
  have changed : ∃ part, setTarget item (.array items) = .array (part :: rest) ∧
      ∀ others, CompilerOptions.decoder.ofJson part = .ok others ↔
        ∃ target, ScriptTarget.decoder.option.ofJson item = .ok target ∧
          others = { payload.compilerOptions with target } := by
    rcases Record.readsItems_field_iff.1 first with ⟨rfl, rfl, same⟩ | ⟨options, rfl, reads⟩
    · refine ⟨_, rfl, fun others => ?_⟩
      rw [← Option.some.inj same]
      exact CompilerOptions.ofJson_setMember_target_iff List.Pairwise.nil rfl
    · have sortedPart := sorted.of_mem_array List.mem_cons_self
      exact ⟨_, rfl, fun others => ofJson_setMember_target_iff sortedPart reads⟩
  rcases changed with ⟨part, same, reads⟩
  rw [same, ofJson_array_eq_ok_iff]
  constructor
  · intro described
    rcases described with ⟨_, firstRead, laterRead⟩
    rcases Record.readsItems_field_iff.1 firstRead with ⟨missing, _⟩ | ⟨_, listed, readPart⟩
    · cases missing
    · cases listed
      rcases (reads _).1 readPart with ⟨target, readTarget, sameOptions⟩
      refine ⟨target, readTarget, ?_⟩
      have sameRest := laterRead.unique later
      cases other
      cases sameOptions
      cases sameRest
      rfl
  · intro described
    rcases described with ⟨target, readTarget, rfl⟩
    refine ⟨rest, Record.readsItems_field_iff.2 (.inr ⟨part, rfl, ?_⟩), later⟩
    exact (reads _).2 ⟨target, readTarget, rfl⟩

/-- Setting the target of a document changes nothing of what is read but the target, and the
document is still one of a payload exactly if the value is read as a target. -/
theorem ofJson_setTarget_iff {document : Json} (sorted : document.Sorted)
    (read : decoder.ofJson document = .ok payload) :
    decoder.ofJson (setTarget item document) = .ok other ↔
      ∃ target, ScriptTarget.decoder.option.ofJson item = .ok target ∧
        other = payload.withTarget target := by
  match document, read with
  | .object members, read => exact ofJson_object_setTarget_iff sorted read
  | .array items, read => exact ofJson_array_setTarget_iff sorted read

/-- A document of the payload. Values do not keep the order of registration, so extra files
come out of it in the order of their names. -/
def GivenBy (payload : Payload) (document : Json) : Prop :=
  decoder.ofJson document = .ok { payload with extraLibs := payload.extraLibs.sorted }

theorem givenBy_toJson (apart : payload.compilerOptions.Apart) : payload.GivenBy payload.toJson :=
  ofJson_toJson apart

theorem exists_ofJson_setTarget_iff {document : Json} (sorted : document.Sorted)
    (given : payload.GivenBy document) :
    (∃ other, decoder.ofJson (setTarget item document) = .ok other) ↔
      ∃ target, ScriptTarget.decoder.option.ofJson item = .ok target := by
  simp only [ofJson_setTarget_iff sorted given]
  constructor
  · intro accepted
    rcases accepted with ⟨_, target, reads, _⟩
    exact ⟨target, reads⟩
  · intro read
    rcases read with ⟨target, reads⟩
    exact ⟨_, target, reads, rfl⟩

end Payload

end LanguageWorker
