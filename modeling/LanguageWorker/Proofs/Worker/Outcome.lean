import LanguageWorker.Proofs.Worker.Surface

namespace LanguageWorker.Worker

open ParameterType

/-! What can become of a call. A call is one of four kinds, by its name and by whether its
parameters fit, and the kind fixes the worker that it leaves and what comes back. Later
statements about calls split along these kinds and do not open the dispatch again. -/

inductive CallOutcome (worker : Worker) (store : Store) (method : String) (given : Json) :
    Worker × Except WorkerError Json → Prop
  | unknown (unlisted : method ∉ Method.all.map Method.name) :
      CallOutcome worker store method given (worker, .error (.unknownMethod method))
  | settled {describes : Json → Prop} {item : Json}
      (listed : (method, describes) ∈ settledCalls (worker.host store))
      (described : describes item) :
      CallOutcome worker store method given (worker, .ok item)
  | refused {call : Call worker} {cause : DecodeError}
      (listed : call ∈ calls worker (worker.host store) worker.inlayHintsOptions)
      (named : call.name = method) (unfit : ¬ Fits call.parameters given) :
      CallOutcome worker store method given
        (worker, .error (.invalidParameters method cause))
  | answered {call : Call worker} {items : List Json} {values : Values call.parameters}
      {result : Except WorkerError Json}
      (listed : call ∈ calls worker (worker.host store) worker.inlayHintsOptions)
      (named : call.name = method) (array : given = .array items)
      (reads : ReadsAll call.parameters items values)
      (conveys : call.answer.Conveys (call.operation values) result) :
      CallOutcome worker store method given (call.after values, result)

variable {worker : Worker} {store : Store} {method : String} {given : Json}

theorem Understands.callOutcome {call : Call worker} (understands : Understands worker store call)
    (listed : call ∈ calls worker (worker.host store) worker.inlayHintsOptions) :
    CallOutcome worker store call.name given (worker.dispatch store call.name given) := by
  by_cases fits : Fits call.parameters given
  · rcases fits with ⟨items, values, rfl, reads⟩
    rcases understands.answers items values reads with ⟨after, conveys⟩
    have outcome := CallOutcome.answered listed rfl rfl reads conveys
    rwa [← after] at outcome
  · rcases (understands.refuses given).2 fits with ⟨cause, refused⟩
    rw [refused]
    exact .refused listed rfl fits

/-- Every call is of one of the kinds. -/
theorem callOutcome_dispatch (worker : Worker) (store : Store) (method : String) (given : Json) :
    CallOutcome worker store method given (worker.dispatch store method given) := by
  by_cases known : method ∈ Method.all.map Method.name
  · have announced := announced_perm worker (worker.host store) worker.inlayHintsOptions
    rcases List.mem_append.1 (announced.mem_iff.2 known) with here | here
    · rcases List.mem_map.1 here with ⟨call, listed, rfl⟩
      rcases dispatch_settledCalls worker store call listed with ⟨item, described, answered⟩
      rw [answered]
      exact .settled listed described
    · rcases List.mem_map.1 here with ⟨call, listed, rfl⟩
      exact (understands_calls worker store call listed).callOutcome listed
  · rw [dispatch_of_unknown known]
    exact .unknown known

/-! ## The worker after a call -/

/-- The one call that changes a worker. -/
def replacement (worker : Worker) : Call worker where
  name := "updateExtraLibs"
  parameters := [.extraLibs]
  answer := .nothing
  operation := fun _ => .ok ()
  after := fun (libs, _) => { worker with extraLibs := libs }

theorem replacement_mem_calls (worker : Worker) (host : Host) (preferences : Preferences) :
    worker.replacement ∈ calls worker host preferences :=
  List.mem_cons_of_mem _ List.mem_cons_self

theorem after_of_name_ne {host : Host} {preferences : Preferences} {call : Call worker}
    (listed : call ∈ calls worker host preferences) (other : call.name ≠ "updateExtraLibs")
    (values : Values call.parameters) : call.after values = worker := by
  revert call
  -- All calls but the replacement have the default effect, and that one is excluded.
  simp only [calls, List.forall_mem_cons, List.not_mem_nil, ne_eq, not_true_eq_false,
    false_implies, implies_true, and_true]

theorem dispatch_fst_of_ne (worker : Worker) (store : Store) (given : Json)
    (other : method ≠ "updateExtraLibs") : (worker.dispatch store method given).1 = worker := by
  have outcome := callOutcome_dispatch worker store method given
  generalize worker.dispatch store method given = left at outcome ⊢
  cases outcome with
  | unknown unlisted => rfl
  | settled listed described => rfl
  | refused listed named unfit => rfl
  | answered listed named array reads conveys =>
      subst named
      exact after_of_name_ne listed other _

/-- A form of extra declaration files is always accepted. -/
theorem dispatch_updateExtraLibs_of_form (worker : Worker) (store : Store) {item : Json}
    {libs : ExtraLibs} (form : ExtraLibs.Form item libs) :
    worker.dispatch store "updateExtraLibs" (.array [item]) =
      (worker.updateExtraLibs libs, .ok .null) := by
  have understands := understands_calls worker store worker.replacement
    (replacement_mem_calls worker (worker.host store) worker.inlayHintsOptions)
  have reads : ReadsAll [.extraLibs] [item] (libs, ()) := ⟨form, trivial⟩
  rcases understands.answers [item] (libs, ()) reads with ⟨after, _, rfl, succeeded⟩
  exact Prod.ext after succeeded

/-- A replacement is refused and leaves the worker as it is, or else the parameter is a form
of the extra declaration files that the worker has afterwards. -/
theorem dispatch_updateExtraLibs (worker : Worker) (store : Store) (given : Json) :
    (∃ cause, worker.dispatch store "updateExtraLibs" given = (worker, .error cause)) ∨
      ∃ item libs, given = .array [item] ∧ ExtraLibs.Form item libs ∧
        worker.dispatch store "updateExtraLibs" given =
          (worker.updateExtraLibs libs, .ok .null) := by
  have understands := understands_calls worker store worker.replacement
    (replacement_mem_calls worker (worker.host store) worker.inlayHintsOptions)
  by_cases fits : Fits [.extraLibs] given
  · rcases fits with ⟨items, ⟨libs, nothing⟩, rfl, reads⟩
    have answered := understands.answers items (libs, nothing) reads
    rcases readsAll_cons_iff.1 reads with ⟨item, rest, rfl, form, last⟩
    rw [readsAll_nil_iff.1 last] at answered ⊢
    rcases answered.2 with ⟨answer, rfl, succeeded⟩
    exact .inr ⟨item, libs, rfl, form, Prod.ext answered.1 succeeded⟩
  · rcases (understands.refuses given).2 fits with ⟨cause, refused⟩
    exact .inl ⟨_, refused⟩

end LanguageWorker.Worker
