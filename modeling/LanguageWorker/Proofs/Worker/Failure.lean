import LanguageWorker.Proofs.Service.Description
import LanguageWorker.Proofs.Worker.Outcome

namespace LanguageWorker.Worker

open ParameterType

/-! How calls fail, and why a call for diagnostics never fails on the way out. The worker
adds two errors of its own to those of the engine: that it does not know the method, and
that the parameters do not fit. Diagnostics are described by what comes back for them,
whatever references to files the engine has left in them. -/

/-- The errors that a call may fail with, and their texts. An error of the engine is the one
with which it answered the question that the call stands for, and its words are left as they
are. -/
inductive Failure (worker : Worker) (store : Store) (method : String) (given : Json) :
    WorkerError → String → Prop
  | unknownMethod (unlisted : method ∉ Method.all.map Method.name) :
      Failure worker store method given (.unknownMethod method) ("Unknown method: " ++ method)
  | invalidParameters {call : Call worker} {cause : DecodeError}
      (listed : call ∈ calls worker (worker.host store) worker.inlayHintsOptions)
      (named : call.name = method) (unfit : ¬ Fits call.parameters given) :
      Failure worker store method given (.invalidParameters method cause)
        ("Invalid params for " ++ method ++ ": " ++ cause.message)
  | reported {call : Call worker} {items : List Json} {values : Values call.parameters}
      {words : String}
      (listed : call ∈ calls worker (worker.host store) worker.inlayHintsOptions)
      (named : call.name = method) (array : given = .array items)
      (reads : ReadsAll call.parameters items values)
      (raised : call.operation values = .error (.reported words)) :
      Failure worker store method given (.engine (.reported words)) words
  | aborted {call : Call worker} {items : List Json} {values : Values call.parameters}
      (listed : call ∈ calls worker (worker.host store) worker.inlayHintsOptions)
      (named : call.name = method) (array : given = .array items)
      (reads : ReadsAll call.parameters items values)
      (raised : call.operation values = .error .aborted) :
      Failure worker store method given (.engine .aborted) ""

/-- The calls for diagnostics, with the question that each asks about a file. -/
def diagnosticCalls (service : LanguageService) :
    List (String × (String → Answer (List Diagnostic))) := [
  ("getSyntacticDiagnostics", service.syntacticDiagnostics),
  ("getSemanticDiagnostics", service.semanticDiagnostics),
  ("getSuggestionDiagnostics", service.suggestionDiagnostics),
  ("getCompilerOptionsDiagnostics", fun _ => service.compilerOptionsDiagnostics)]

variable {worker : Worker} {store : Store} {method : String} {given item : Json}

theorem raised_of_conveys {type : AnswerType} {answer : Answer type.Value} {error : WorkerError}
    (conveys : type.Conveys answer (.error error)) :
    ∃ cause, answer = .error cause ∧ error = .engine cause := by
  cases answer with
  | error cause =>
      cases conveys
      exact ⟨cause, rfl, rfl⟩
  | ok value =>
      rcases conveys with ⟨_, _, impossible⟩
      cases impossible

theorem failure_of_dispatch {error : WorkerError}
    (failed : (worker.dispatch store method given).2 = .error error) :
    Failure worker store method given error error.message := by
  have outcome := callOutcome_dispatch worker store method given
  generalize worker.dispatch store method given = left at outcome failed
  cases outcome with
  | unknown unlisted =>
      cases failed
      exact .unknownMethod unlisted
  | settled listed described => cases failed
  | refused listed named unfit =>
      cases failed
      exact .invalidParameters listed named unfit
  | answered listed named array reads conveys =>
      cases failed
      rcases raised_of_conveys conveys with ⟨cause, raised, rfl⟩
      cases cause with
      | reported words => exact .reported listed named array reads raised
      | aborted => exact .aborted listed named array reads raised

/-! ## Calls for diagnostics -/

theorem readsAll_text_iff {items : List Json} {values : Values [.text]} :
    ReadsAll [.text] items values ↔ items = [.string values.1] := by
  simp only [readsAll_cons_iff, readsAll_nil_iff, Reads]
  constructor
  · intro reads
    rcases reads with ⟨_, _, rfl, rfl, rfl⟩
    rfl
  · intro same
    exact ⟨_, _, same, rfl, rfl⟩

def diagnosticCall (worker : Worker) (name : String) (ask : String → Answer (List Diagnostic)) :
    Call worker where
  name
  parameters := [.text]
  answer := .diagnostics
  operation := fun (fileName, _) => ask fileName

/-- What is conveyed as diagnostics is their description, and nothing else is. -/
theorem conveys_diagnostics_ok_iff {answer : Answer (List Diagnostic)}
    {outcome : Except WorkerError Json}
    (conveys : AnswerType.diagnostics.Conveys answer outcome) :
    outcome = .ok item ↔
      ∃ diagnostics, answer = .ok diagnostics ∧ Diagnostics.Describe diagnostics item := by
  cases answer with
  | error cause =>
      cases conveys
      constructor
      · exact nofun
      · exact nofun
  | ok diagnostics =>
      rcases conveys with ⟨written, describe, rfl⟩
      constructor
      · intro same
        cases same
        exact ⟨diagnostics, rfl, describe⟩
      · intro other
        rcases other with ⟨_, same, otherDescribe⟩
        cases same
        exact congrArg Except.ok (Diagnostics.Describe.unique describe otherDescribe)

theorem diagnosticCall_mem_calls (worker : Worker) (store : Store) (preferences : Preferences) :
    ∀ entry ∈ diagnosticCalls (worker.service store),
      worker.diagnosticCall entry.1 entry.2 ∈ calls worker (worker.host store) preferences := by
  simp only [diagnosticCalls, List.forall_mem_cons, List.not_mem_nil, false_implies, implies_true,
    and_true]
  refine ⟨?_, ?_, ?_, ?_⟩
  -- They follow one another, after the text of a script and the replacement.
  · exact .tail _ (.tail _ (.head _))
  · exact .tail _ (.tail _ (.tail _ (.head _)))
  · exact .tail _ (.tail _ (.tail _ (.tail _ (.head _))))
  · exact .tail _ (.tail _ (.tail _ (.tail _ (.tail _ (.head _)))))

theorem dispatch_diagnosticCall {ask : String → Answer (List Diagnostic)}
    (listed : (method, ask) ∈ diagnosticCalls (worker.service store)) :
    (worker.dispatch store method given).2 = .ok item ↔
      ∃ name diagnostics, given = .array [.string name] ∧ ask name = .ok diagnostics ∧
        Diagnostics.Describe diagnostics item := by
  have understands := understands_calls worker store (worker.diagnosticCall method ask)
    (diagnosticCall_mem_calls worker store worker.inlayHintsOptions _ listed)
  by_cases fits : Fits [.text] given
  · rcases fits with ⟨items, ⟨name, nothing⟩, rfl, reads⟩
    have answered := (understands.answers items (name, nothing) reads).2
    cases readsAll_text_iff.1 reads
    apply (conveys_diagnostics_ok_iff answered).trans
    constructor
    · intro described
      rcases described with ⟨diagnostics, described⟩
      exact ⟨name, diagnostics, rfl, described⟩
    · intro described
      rcases described with ⟨other, diagnostics, same, described⟩
      cases same
      exact ⟨diagnostics, described⟩
  · rcases (understands.refuses given).2 fits with ⟨cause, refused⟩
    have failed := congrArg Prod.snd refused
    constructor
    · intro succeeded
      cases failed.symm.trans succeeded
    · intro described
      rcases described with ⟨name, _, rfl, _⟩
      exact absurd ⟨_, (name, ()), rfl, readsAll_text_iff.2 rfl⟩ fits

/-- What is promised of calls that fail, and of the answers to calls for diagnostics. -/
structure Reports (worker : Worker) (store : Store) (method : String) (given : Json) : Prop where
  failure : ∀ error, (worker.dispatch store method given).2 = .error error →
    Failure worker store method given error error.message
  serialized : ∀ cause, (worker.dispatch store method given).2 ≠ .error (.serialization cause)
  registered : ∀ locator,
    (worker.dispatch store method given).2 ≠ .error (.customWorkerMissing locator)
  described : ∀ ask item, (method, ask) ∈ diagnosticCalls (worker.service store) →
    ((worker.dispatch store method given).2 = .ok item ↔
      ∃ name diagnostics, given = .array [.string name] ∧ ask name = .ok diagnostics ∧
        Diagnostics.Describe diagnostics item)
  withoutFiles : ∀ ask item, (method, ask) ∈ diagnosticCalls (worker.service store) →
    (worker.dispatch store method given).2 = .ok item → item.Lacks "file"

theorem dispatch_reports (worker : Worker) (store : Store) (method : String) (given : Json) :
    Reports worker store method given := by
  constructor
  · intro error failed
    exact failure_of_dispatch failed
  · intro cause failed
    cases failure_of_dispatch failed
  · intro locator failed
    cases failure_of_dispatch failed
  · intro ask item listed
    exact dispatch_diagnosticCall listed
  · intro ask item listed succeeded
    rcases (dispatch_diagnosticCall listed).1 succeeded with ⟨_, _, _, _, describe⟩
    exact describe.lacks_file

end LanguageWorker.Worker
