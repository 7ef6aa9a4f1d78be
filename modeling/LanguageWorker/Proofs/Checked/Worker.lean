import LanguageWorker.Proofs.Checked.Arithmetic
import LanguageWorker.Proofs.Worker.Failure

namespace LanguageWorker.Worker

/-! Calls that may break off. Two of them work out a span from bounds that come from outside, and
any of them breaks off with the engine. -/

open ParameterType

/-- Answer a request that changes nothing. Spans are worked out for two of them. -/
def checkedQuery (worker : Worker) (store : Store) :
    Request → Checked (Except WorkerError Json)
  | .inlayHints name start stop => do
      let span ← Span.checkedOfBounds start stop
      return written Json.array
        ((worker.service store).inlayHints name span worker.inlayHintsOptions)
  | .codeFixesAtPosition name start stop codes options => do
      let span ← Span.checkedOfBounds start stop
      return written Json.array
        ((worker.service store).codeFixesAtPosition name span codes options .empty)
  | request => return worker.query store request

def checkedDispatch (worker : Worker) (store : Store) (method : String) (given : Json) :
    Worker × Checked (Except WorkerError Json) :=
  match Method.ofName? method with
  | none => (worker, .ok (.error (.unknownMethod method)))
  | some known =>
      match Request.decode known given with
      | .error cause => (worker, .ok (.error (.invalidParameters method cause)))
      | .ok request => (worker.after request, worker.checkedQuery store request)

theorem checkedQuery_eq (worker : Worker) (store : Store) (request : Request) :
    worker.checkedQuery store request = .ok (worker.query store request) := by
  cases request with
  | inlayHints name start stop =>
      rw [checkedQuery, Span.checkedOfBounds_eq]
      rfl
  | codeFixesAtPosition name start stop codes options =>
      rw [checkedQuery, Span.checkedOfBounds_eq]
      rfl
  | _ => rfl

theorem checkedDispatch_eq (worker : Worker) (store : Store) (method : String) (given : Json) :
    worker.checkedDispatch store method given =
      ((worker.dispatch store method given).1, .ok (worker.dispatch store method given).2) := by
  unfold checkedDispatch dispatch
  cases Method.ofName? method with
  | none => rfl
  | some known =>
      dsimp only
      cases Request.decode known given with
      | error cause => rfl
      | ok request => simp only [checkedQuery_eq]

/-- What becomes of two bounds of 32 bits, whichever way round: a span that begins at the first of
them and ends at the larger one is handed to the engine. -/
structure HandsSpan (worker : Worker) (store : Store) (start stop : UInt32) : Prop where
  comes : Span.checkedOfBounds start stop = .ok (.ofBounds start stop)
  begins : (Span.ofBounds start stop).start = start
  ends : (Span.ofBounds start stop).stop? = some (max start stop)
  inlayHints : ∀ name,
    (worker.dispatch store "provideInlayHints"
        (.array [.string name, .ofWord start, .ofWord stop])).2 =
      written Json.array ((worker.service store).inlayHints name (.ofBounds start stop)
        worker.inlayHintsOptions)
  codeFixes : ∀ name codes options,
    (worker.dispatch store "getCodeFixesAtPosition"
        (.array [.string name, .ofWord start, .ofWord stop, .array (codes.map Json.ofWord),
          options])).2 =
      written Json.array ((worker.service store).codeFixesAtPosition name (.ofBounds start stop)
        codes options .empty)

theorem handsSpan (worker : Worker) (store : Store) (start stop : UInt32) :
    HandsSpan worker store start stop where
  comes := Span.checkedOfBounds_eq start stop
  begins := rfl
  ends := Span.stop?_ofBounds start stop
  inlayHints := by
    intro name
    have reads : ReadsAll [.text, .word, .word] [.string name, .ofWord start, .ofWord stop]
        (name, start, stop, ()) := ⟨rfl, rfl, rfl, trivial⟩
    exact congrArg Prod.snd (dispatch_of_takes .inlayHints (fun _ => rfl)
      (.map _ (.cons .text (.cons .word (Parameters.takes_one .word)))) reads)
  codeFixes := by
    intro name codes options
    have reads : ReadsAll [.text, .word, .word, .words, .anything]
        [.string name, .ofWord start, .ofWord stop, .array (codes.map Json.ofWord), options]
        (name, start, stop, codes, options, ()) := ⟨rfl, rfl, rfl, rfl, rfl, trivial⟩
    exact congrArg Prod.snd (dispatch_of_takes .codeFixesAtPosition (fun _ => rfl)
      (.map _ (.cons .text (.cons .word (.cons .word (.cons .words
        (Parameters.takes_one .anything)))))) reads)

/-- The engine breaks off at the question that a call stands for. -/
def EngineBreaksOff (worker : Worker) (store : Store) (method : String) (given : Json) : Prop :=
  ∃ call ∈ calls worker (worker.host store) worker.inlayHintsOptions, call.name = method ∧
    ∃ items values, given = .array items ∧ ReadsAll call.parameters items values ∧
      call.operation values = .error .aborted

theorem dispatch_eq_aborted_iff {worker : Worker} {store : Store} {method : String} {given : Json} :
    (worker.dispatch store method given).2 = .error (.engine .aborted) ↔
      worker.EngineBreaksOff store method given := by
  constructor
  · intro aborted
    have failure := failure_of_dispatch aborted
    generalize WorkerError.message _ = words at failure
    cases failure with
    | aborted listed named array reads raised =>
        exact ⟨_, listed, named, _, _, array, reads, raised⟩
  · intro described
    rcases described with ⟨call, listed, rfl, items, values, rfl, reads, raised⟩
    have conveys := ((understands_calls worker store call listed).answers items values reads).2
    rwa [raised] at conveys

end LanguageWorker.Worker
