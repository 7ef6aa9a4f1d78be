import LanguageWorker.Proofs.Payload.CompilerOptions
import LanguageWorker.Proofs.Service.Description
import LanguageWorker.Proofs.Worker.Parameters
import LanguageWorker.Worker.Dispatch

namespace LanguageWorker

/-! The calls that a worker understands: by name, with the types of their parameters, the
operation that each stands for, and the type of its answer. -/

/-- The types of answers. -/
inductive AnswerType where
  | nothing
  | text
  | diagnostics
  | record
  | records
  /-- Records that there is always a list of. -/
  | recordList
  /-- An answer that is JSON already. -/
  | json
  | changes
  | output
  deriving DecidableEq, Repr

namespace AnswerType

@[reducible] def Value : AnswerType → Type
  | nothing => Unit
  | text => Option String
  | diagnostics => List Diagnostic
  | record => Option EngineRecord
  | records => Option (List EngineRecord)
  | recordList => List EngineRecord
  | json => Json
  | changes => List TextChange
  | output => EmitOutput

/-- The written form of an answer, member by member. -/
def Writes : (type : AnswerType) → type.Value → Json → Prop
  | nothing, _, item => item = .null
  | text, value, item => Json.OrNull (fun text other => other = .string text) value item
  | diagnostics, values, item => Diagnostics.Describe values item
  | record, value, item => Json.OrNull (fun record other => other = record) value item
  | records, values, item => Json.OrNull (fun records other => other = .array records) values item
  | recordList, values, item => item = .array values
  | json, value, item => item = value
  | changes, values, item => Json.ArrayOf TextChange.Describes values item
  | output, value, item => value.Describes item

/-- What comes back for an operation: its answer, written, or the error of the engine. -/
def Conveys (type : AnswerType) (answer : Answer type.Value) (outcome : Except WorkerError Json) :
    Prop :=
  match answer with
  | .ok value => ∃ item, type.Writes value item ∧ outcome = .ok item
  | .error cause => outcome = .error (.engine cause)

end AnswerType

namespace Worker

open ParameterType

/-- A call with parameters, as a worker understands it. Almost all of them leave the worker
as it is. -/
structure Call (worker : Worker) where
  name : String
  parameters : List ParameterType
  answer : AnswerType
  operation : Values parameters → Answer answer.Value
  after : Values parameters → Worker := fun _ => worker

/-- The calls whose parameters nobody looks at, with what their answers say. -/
def settledCalls (host : Host) : List (String × (Json → Prop)) := [
  ("getCompilationSettings", fun item => item.HasFields host.settings.Field),
  ("getScriptFileNames", fun item => item = .array (host.scriptFileNames.map Json.string)),
  ("getExtraLibs", fun item => item.HasEntries host.extraLibs ExtraLib.Describes),
  ("getLibFiles", fun item => item.HasEntries host.libs fun text other => other = .string text)]

/-- The other calls, for a worker whose engine gets to see the files of a host. The preferences
are those for inlay hints. -/
def calls (worker : Worker) (host : Host) (preferences : Preferences) : List (Call worker) :=
  let service := worker.engine host.view
  [ { name := "getScriptText", parameters := [.text], answer := .text
      operation := fun (name, _) => .ok (host.scriptText? name) },
    { name := "updateExtraLibs", parameters := [.extraLibs], answer := .nothing
      operation := fun _ => .ok ()
      after := fun (libs, _) => { worker with extraLibs := libs } },
    { name := "getSyntacticDiagnostics", parameters := [.text], answer := .diagnostics
      operation := fun (name, _) => service.syntacticDiagnostics name },
    { name := "getSemanticDiagnostics", parameters := [.text], answer := .diagnostics
      operation := fun (name, _) => service.semanticDiagnostics name },
    { name := "getSuggestionDiagnostics", parameters := [.text], answer := .diagnostics
      operation := fun (name, _) => service.suggestionDiagnostics name },
    { name := "getCompilerOptionsDiagnostics", parameters := [.text], answer := .diagnostics
      operation := fun _ => service.compilerOptionsDiagnostics },
    { name := "getCompletionsAtPosition", parameters := [.text, .word], answer := .record
      operation := fun (name, position, _) => service.completionsAtPosition name position },
    { name := "getCompletionEntryDetails", parameters := [.text, .word, .text], answer := .record
      operation := fun (name, position, entry, _) =>
        service.completionEntryDetails name position entry },
    { name := "getSignatureHelpItems", parameters := [.text, .word], answer := .record
      operation := fun (name, position, _) => service.signatureHelpItems name position },
    { name := "getQuickInfoAtPosition", parameters := [.text, .word], answer := .record
      operation := fun (name, position, _) => service.quickInfoAtPosition name position },
    { name := "getOccurrencesAtPosition", parameters := [.text, .word], answer := .records
      operation := fun (name, position, _) => service.occurrencesAtPosition name position },
    { name := "getDocumentHighlights", parameters := [.text, .word, .texts], answer := .records
      operation := fun (name, position, files, _) =>
        service.documentHighlights name position files },
    { name := "getDefinitionAtPosition", parameters := [.text, .word], answer := .records
      operation := fun (name, position, _) => service.definitionAtPosition name position },
    { name := "getReferencesAtPosition", parameters := [.text, .word], answer := .records
      operation := fun (name, position, _) => service.referencesAtPosition name position },
    { name := "getNavigationBarItems", parameters := [.text], answer := .recordList
      operation := fun (name, _) => service.navigationBarItems name },
    { name := "getNavigationTree", parameters := [.text], answer := .record
      operation := fun (name, _) => service.navigationTree name },
    { name := "provideInlayHints", parameters := [.text, .word, .word], answer := .recordList
      operation := fun (name, start, stop, _) =>
        service.inlayHints name { start, length := if start ≤ stop then stop - start else 0 }
          preferences },
    { name := "getFormattingEditsForDocument", parameters := [.text, .anything], answer := .changes
      operation := fun (name, options, _) => service.formattingEditsForDocument name options },
    { name := "getFormattingEditsForRange"
      parameters := [.text, .word, .word, .anything], answer := .changes
      operation := fun (name, start, stop, options, _) =>
        service.formattingEditsForRange name start stop options },
    { name := "getFormattingEditsAfterKeystroke"
      parameters := [.text, .word, .text, .anything], answer := .changes
      operation := fun (name, position, key, options, _) =>
        service.formattingEditsAfterKeystroke name position key options },
    { name := "findRenameLocations"
      parameters := [.text, .word, .flag, .flag, .flag], answer := .records
      operation := fun (name, position, findInStrings, findInComments, provideAffixText, _) =>
        service.findRenameLocations name position
          { findInStrings, findInComments, provideAffixText } },
    { name := "getRenameInfo", parameters := [.text, .word, .preferences], answer := .json
      operation := fun (name, position, preferences, _) =>
        service.renameInfo name position preferences },
    { name := "getCodeFixesAtPosition"
      parameters := [.text, .word, .word, .words, .anything], answer := .recordList
      operation := fun (name, start, stop, codes, options, _) =>
        service.codeFixesAtPosition name
          { start, length := if start ≤ stop then stop - start else 0 } codes options .empty },
    { name := "getEmitOutput", parameters := [.text], answer := .output
      operation := fun (name, _) => service.emitOutput name }]

/-- A worker understands a call: it refuses parameters that do not fit and stays as it is,
and for all others comes back with what the operation makes of their values. -/
structure Understands (worker : Worker) (store : Store) (call : Call worker) : Prop where
  refuses : ∀ given,
    (∃ cause, worker.dispatch store call.name given =
        (worker, .error (.invalidParameters call.name cause))) ↔
      ¬ Fits call.parameters given
  answers : ∀ items values, ReadsAll call.parameters items values →
    (worker.dispatch store call.name (.array items)).1 = call.after values ∧
      call.answer.Conveys (call.operation values)
        (worker.dispatch store call.name (.array items)).2

/-- All that a worker makes of the calls that reach it. -/
structure Surface (worker : Worker) (store : Store) (host : Host) (preferences : Preferences) :
    Prop where
  announced :
    ((settledCalls host).map Prod.fst ++ (calls worker host preferences).map Call.name).Perm
      (Method.all.map Method.name)
  unknown : ∀ method given, method ∉ Method.all.map Method.name →
    worker.dispatch store method given = (worker, .error (.unknownMethod method))
  known : ∀ method given other, method ∈ Method.all.map Method.name →
    (worker.dispatch store method given).2 ≠ .error (.unknownMethod other)
  settled : ∀ call ∈ settledCalls host, ∃ item, call.2 item ∧
    ∀ given, worker.dispatch store call.1 given = (worker, .ok item)
  understood : ∀ call ∈ calls worker host preferences, Understands worker store call

theorem ofName?_name (method : Method) : Method.ofName? method.name = some method := by
  cases method <;> rfl

theorem ofName?_eq_none_iff {name : String} :
    Method.ofName? name = none ↔ name ∉ Method.all.map Method.name := by
  simp [Method.ofName?]

theorem dispatch_of_unknown {worker : Worker} {store : Store} {method : String}
    (unknown : method ∉ Method.all.map Method.name) (given : Json) :
    worker.dispatch store method given = (worker, .error (.unknownMethod method)) := by
  rw [dispatch, ofName?_eq_none_iff.2 unknown]

theorem dispatch_of_refused {worker : Worker} {store : Store} {method : Method} {given : Json}
    {cause : DecodeError} (refused : Request.decode method given = .error cause) :
    worker.dispatch store method.name given =
      (worker, .error (.invalidParameters method.name cause)) := by
  rw [dispatch, ofName?_name]
  simp only [refused]

theorem dispatch_of_decoded {worker : Worker} {store : Store} (method : Method) {given : Json}
    {request : Request} (decoded : Request.decode method given = .ok request) :
    worker.dispatch store method.name given =
      (worker.after request, worker.query store request) := by
  rw [dispatch, ofName?_name]
  simp only [decoded]

/-- What is conveyed is an answer, or else an error of the engine. -/
theorem ok_or_engine_of_conveys {type : AnswerType} {answer : Answer type.Value}
    {outcome : Except WorkerError Json} (conveys : type.Conveys answer outcome) :
    (∃ item, outcome = .ok item) ∨ ∃ cause, outcome = .error (.engine cause) := by
  cases answer with
  | error cause => exact .inr ⟨cause, conveys⟩
  | ok value =>
      rcases conveys with ⟨item, _, succeeded⟩
      exact .inl ⟨item, succeeded⟩

theorem conveys_written (type : AnswerType) (toJson : type.Value → Json)
    (writes : ∀ value, type.Writes value (toJson value)) (answer : Answer type.Value) :
    type.Conveys answer (written toJson answer) := by
  cases answer with
  | error cause => rfl
  | ok value => exact ⟨toJson value, writes value, rfl⟩

/-- Whatever references to files the engine has left, its diagnostics are written. -/
theorem conveys_writtenDiagnostics (answer : Answer (List Diagnostic)) :
    AnswerType.diagnostics.Conveys answer (writtenDiagnostics answer) := by
  cases answer with
  | error cause => rfl
  | ok diagnostics =>
      rcases Diagnostics.exists_toJson_sanitize diagnostics with ⟨item, written⟩
      refine ⟨item, Diagnostics.describe_of_toJson written, ?_⟩
      simp only [writtenDiagnostics, written]

theorem writes_record (record : Option EngineRecord) :
    AnswerType.record.Writes record (recordToJson record) := by
  cases record with
  | none => exact .absent
  | some record => exact .present rfl

theorem writes_records (records : Option (List EngineRecord)) :
    AnswerType.records.Writes records (recordsToJson records) :=
  Json.orNull_iff.2 rfl

theorem writes_changes (changes : List TextChange) :
    AnswerType.changes.Writes changes (changesToJson changes) :=
  Json.arrayOf_map TextChange.describes_toJson changes

theorem dispatch_of_takes {worker : Worker} {store : Store} (method : Method)
    {parameters : Parameters Request} {types : List ParameterType}
    {build : Values types → Request} {items : List Json} {values : Values types}
    (decodes : ∀ given, Request.decode method given = parameters.decode given)
    (takes : parameters.Takes types build) (reads : ReadsAll types items values) :
    worker.dispatch store method.name (.array items) =
      (worker.after (build values), worker.query store (build values)) :=
  dispatch_of_decoded method
    ((decodes _).trans (takes.decode_eq_ok_iff.2 ⟨items, values, rfl, reads, rfl⟩))

theorem understands_of_takes {worker : Worker} {store : Store} {call : Call worker}
    (method : Method) {parameters : Parameters Request} {build : Values call.parameters → Request}
    (named : method.name = call.name)
    (decodes : ∀ given, Request.decode method given = parameters.decode given)
    (takes : parameters.Takes call.parameters build)
    (after : ∀ values, worker.after (build values) = call.after values)
    (conveys : ∀ values,
      call.answer.Conveys (call.operation values) (worker.query store (build values))) :
    Understands worker store call := by
  have answered (items : List Json) (values : Values call.parameters)
      (reads : ReadsAll call.parameters items values) :
      worker.dispatch store call.name (.array items) =
        (worker.after (build values), worker.query store (build values)) := by
    rw [← named]
    exact dispatch_of_takes method decodes takes reads
  constructor
  · intro given
    constructor
    · intro failure fits
      rcases failure with ⟨cause, refused⟩
      rcases fits with ⟨items, values, rfl, reads⟩
      have outcome : worker.query store (build values) =
          .error (.invalidParameters call.name cause) :=
        congrArg Prod.snd ((answered items values reads).symm.trans refused)
      rcases ok_or_engine_of_conveys (conveys values) with ⟨item, answer⟩ | ⟨failure, answer⟩
      · cases answer.symm.trans outcome
      · cases answer.symm.trans outcome
    · intro unfit
      cases decoded : Request.decode method given with
      | error cause => exact ⟨cause, named ▸ dispatch_of_refused decoded⟩
      | ok request =>
          rcases takes.decode_eq_ok_iff.1 ((decodes given).symm.trans decoded) with
            ⟨items, values, same, reads, _⟩
          exact absurd ⟨items, values, same, reads⟩ unfit
  · intro items values reads
    rw [answered items values reads]
    exact ⟨after values, conveys values⟩

open Parameters

theorem takes_file : Request.file.Takes [.text] fun values => values.1 := takes_one .text

theorem takes_place :
    Request.place.Takes [.text, .word] fun values => (values.1, values.2.1) :=
  .cons .text (takes_one .word)

theorem understands_calls (worker : Worker) (store : Store) :
    ∀ call ∈ calls worker (worker.host store) worker.inlayHintsOptions,
      Understands worker store call := by
  simp only [calls, List.forall_mem_cons, List.not_mem_nil, false_implies, implies_true, and_true]
  refine ⟨?_, ?_, ?_, ?_, ?_, ?_, ?_, ?_, ?_, ?_, ?_, ?_,
    ?_, ?_, ?_, ?_, ?_, ?_, ?_, ?_, ?_, ?_, ?_, ?_⟩
  -- The parameters of each call are taken in the order of its types, and what is asked of
  -- the worker with their values is the operation.
  · exact understands_of_takes .scriptText rfl (fun _ => rfl) (.map _ takes_file)
      (fun _ => rfl) fun _ => ⟨_, Json.orNull_iff.2 rfl, rfl⟩
  · exact understands_of_takes .updateExtraLibs rfl (fun _ => rfl) (.map _ (takes_one .extraLibs))
      (fun _ => rfl) fun _ => ⟨_, rfl, rfl⟩
  · exact understands_of_takes .syntacticDiagnostics rfl (fun _ => rfl) (.map _ takes_file)
      (fun _ => rfl) fun _ => conveys_writtenDiagnostics _
  · exact understands_of_takes .semanticDiagnostics rfl (fun _ => rfl) (.map _ takes_file)
      (fun _ => rfl) fun _ => conveys_writtenDiagnostics _
  · exact understands_of_takes .suggestionDiagnostics rfl (fun _ => rfl) (.map _ takes_file)
      (fun _ => rfl) fun _ => conveys_writtenDiagnostics _
  · exact understands_of_takes .compilerOptionsDiagnostics rfl (fun _ => rfl) (.map _ takes_file)
      (fun _ => rfl) fun _ => conveys_writtenDiagnostics _
  · exact understands_of_takes .completionsAtPosition rfl (fun _ => rfl) (.map _ takes_place)
      (fun _ => rfl) fun _ => conveys_written .record recordToJson writes_record _
  · exact understands_of_takes .completionEntryDetails rfl (fun _ => rfl)
      (.map _ (.cons .text (.cons .word (takes_one .text))))
      (fun _ => rfl) fun _ => conveys_written .record recordToJson writes_record _
  · exact understands_of_takes .signatureHelpItems rfl (fun _ => rfl) (.map _ takes_place)
      (fun _ => rfl) fun _ => conveys_written .record recordToJson writes_record _
  · exact understands_of_takes .quickInfoAtPosition rfl (fun _ => rfl) (.map _ takes_place)
      (fun _ => rfl) fun _ => conveys_written .record recordToJson writes_record _
  · exact understands_of_takes .occurrencesAtPosition rfl (fun _ => rfl) (.map _ takes_place)
      (fun _ => rfl) fun _ => conveys_written .records recordsToJson writes_records _
  · exact understands_of_takes .documentHighlights rfl (fun _ => rfl)
      (.map _ (.cons .text (.cons .word (takes_one .texts))))
      (fun _ => rfl) fun _ => conveys_written .records recordsToJson writes_records _
  · exact understands_of_takes .definitionAtPosition rfl (fun _ => rfl) (.map _ takes_place)
      (fun _ => rfl) fun _ => conveys_written .records recordsToJson writes_records _
  · exact understands_of_takes .referencesAtPosition rfl (fun _ => rfl) (.map _ takes_place)
      (fun _ => rfl) fun _ => conveys_written .records recordsToJson writes_records _
  · exact understands_of_takes .navigationBarItems rfl (fun _ => rfl) (.map _ takes_file)
      (fun _ => rfl) fun _ => conveys_written .recordList Json.array (fun _ => rfl) _
  · exact understands_of_takes .navigationTree rfl (fun _ => rfl) (.map _ takes_file)
      (fun _ => rfl) fun _ => conveys_written .record recordToJson writes_record _
  · exact understands_of_takes .inlayHints rfl (fun _ => rfl)
      (.map _ (.cons .text (.cons .word (takes_one .word))))
      (fun _ => rfl) fun _ => conveys_written .recordList Json.array (fun _ => rfl) _
  · exact understands_of_takes .formattingEditsForDocument rfl (fun _ => rfl)
      (.map _ (.cons .text (takes_one .anything)))
      (fun _ => rfl) fun _ => conveys_written .changes changesToJson writes_changes _
  · exact understands_of_takes .formattingEditsForRange rfl (fun _ => rfl)
      (.map _ (.cons .text (.cons .word (.cons .word (takes_one .anything)))))
      (fun _ => rfl) fun _ => conveys_written .changes changesToJson writes_changes _
  · exact understands_of_takes .formattingEditsAfterKeystroke rfl (fun _ => rfl)
      (.map _ (.cons .text (.cons .word (.cons .text (takes_one .anything)))))
      (fun _ => rfl) fun _ => conveys_written .changes changesToJson writes_changes _
  · exact understands_of_takes .renameLocations rfl (fun _ => rfl)
      (.map _ (.cons .text (.cons .word (.cons .flag (.cons .flag (takes_one .flag))))))
      (fun _ => rfl) fun _ => conveys_written .records recordsToJson writes_records _
  · exact understands_of_takes .renameInfo rfl (fun _ => rfl)
      (.map _ (.cons .text (.cons .word (takes_one .preferences))))
      (fun _ => rfl) fun _ => conveys_written .json id (fun _ => rfl) _
  · exact understands_of_takes .codeFixesAtPosition rfl (fun _ => rfl)
      (.map _ (.cons .text (.cons .word (.cons .word (.cons .words (takes_one .anything))))))
      (fun _ => rfl) fun _ => conveys_written .recordList Json.array (fun _ => rfl) _
  · exact understands_of_takes .emitOutput rfl (fun _ => rfl) (.map _ takes_file)
      (fun _ => rfl) fun _ =>
        conveys_written .output EmitOutput.toJson EmitOutput.describes_toJson _

theorem dispatch_settledCalls (worker : Worker) (store : Store) :
    ∀ call ∈ settledCalls (worker.host store), ∃ item, call.2 item ∧
      ∀ given, worker.dispatch store call.1 given = (worker, .ok item) := by
  simp only [settledCalls, List.forall_mem_cons, List.not_mem_nil, false_implies, implies_true,
    and_true]
  refine ⟨?_, ?_, ?_, ?_⟩
  · exact ⟨_, worker.settings.hasFields_toJson,
      fun _ => dispatch_of_decoded .compilationSettings rfl⟩
  · exact ⟨_, rfl, fun _ => dispatch_of_decoded .scriptFileNames rfl⟩
  · exact ⟨_, ExtraLibs.hasEntries_toJson worker.extraLibs,
      fun _ => dispatch_of_decoded .extraLibs rfl⟩
  · exact ⟨_, Json.hasEntries_ofMembers worker.libs Json.string,
      fun _ => dispatch_of_decoded .libFiles rfl⟩

theorem announced_perm (worker : Worker) (host : Host) (preferences : Preferences) :
    ((settledCalls host).map Prod.fst ++ (calls worker host preferences).map Call.name).Perm
      (Method.all.map Method.name) :=
  .cons _ (.cons _ (@List.perm_middle _ "getScriptText" ["getExtraLibs", "getLibFiles"] _))

theorem Understands.dispatch_ne_unknownMethod {worker : Worker} {store : Store}
    {call : Call worker} (understands : Understands worker store call) (given : Json)
    (other : String) :
    (worker.dispatch store call.name given).2 ≠ .error (.unknownMethod other) := by
  intro unknown
  by_cases fits : Fits call.parameters given
  · rcases fits with ⟨items, values, rfl, reads⟩
    rcases ok_or_engine_of_conveys (understands.answers items values reads).2 with
      ⟨item, answer⟩ | ⟨failure, answer⟩
    · cases answer.symm.trans unknown
    · cases answer.symm.trans unknown
  · rcases (understands.refuses given).2 fits with ⟨cause, refused⟩
    rw [refused] at unknown
    cases unknown

theorem dispatch_ne_unknownMethod {worker : Worker} {store : Store} {method : String}
    (listed : method ∈ Method.all.map Method.name) (given : Json) (other : String) :
    (worker.dispatch store method given).2 ≠ .error (.unknownMethod other) := by
  have announced := announced_perm worker (worker.host store) worker.inlayHintsOptions
  rcases List.mem_append.1 (announced.mem_iff.2 listed) with here | here
  · rcases List.mem_map.1 here with ⟨call, member, rfl⟩
    rcases dispatch_settledCalls worker store call member with ⟨item, _, answered⟩
    rw [answered]
    exact nofun
  · rcases List.mem_map.1 here with ⟨call, member, rfl⟩
    exact (understands_calls worker store call member).dispatch_ne_unknownMethod given other

theorem surface_of_host (worker : Worker) (store : Store) :
    Surface worker store (worker.host store) worker.inlayHintsOptions where
  announced := announced_perm worker _ _
  unknown _ given unlisted := dispatch_of_unknown unlisted given
  known _ given other listed := dispatch_ne_unknownMethod listed given other
  settled := dispatch_settledCalls worker store
  understood := understands_calls worker store

/-- Every worker is made from a payload, and has the extra declaration files that it was last
given. Its other files and its settings are those of its making. -/
theorem dispatch_surface (context : WorkerContext) (payload : Payload) (libs : ExtraLibs)
    (store : Store) :
    Surface { ofPayload context payload with extraLibs := libs } store
      { directory := context.documents store, libs := context.libs
        settings := payload.compilerOptions, extraLibs := libs }
      (payload.inlayHintsOptions.getD .empty) :=
  surface_of_host { ofPayload context payload with extraLibs := libs } store

end Worker

end LanguageWorker
