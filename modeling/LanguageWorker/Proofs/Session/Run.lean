import LanguageWorker.Proofs.Documents.Run
import LanguageWorker.Proofs.Worker.Outcome
import LanguageWorker.Session

namespace LanguageWorker

/-! What a session keeps. The engine is free to answer differently at every step, so a run
comes with an engine for each of its steps. Whatever the engines answer, a call changes
nothing but the extra declaration files, and those only as a whole. The main statement
reads the state behind a run off the run: the documents from the operations on them,
the extra files from the last replacement that succeeded, all else from the creation. -/

/-- The operation on documents that a step performs. -/
def Step.operation? : Step → Option Store.Operation
  | .openDocument uri text version => some (.openDocument uri text version)
  | .updateDocument uri text => some (.updateDocument uri text)
  | .closeDocument uri => some (.closeDocument uri)
  | .updateExtraLibs _ => none
  | .call _ _ => none

/-- A step, with what came back for it, that puts other extra declaration files in place. -/
inductive Replaces : Step × Reply → ExtraLibs → Prop
  | direct (libs : ExtraLibs) (reply : Reply) : Replaces (.updateExtraLibs libs, reply) libs
  | call {item answer : Json} {libs : ExtraLibs} (form : ExtraLibs.Form item libs) :
      Replaces (.call "updateExtraLibs" (.array [item]), .answer (.ok answer)) libs

namespace Session

/-- Take a step at which `engine` answers. -/
def stepWith (session : Session) (engine : Engine) (step : Step) : Session × Reply :=
  { session with worker := { session.worker with engine } }.step step

/-- Take steps one after the other, each with its engine, and keep what came back for each. -/
def runWith (session : Session) : List (Engine × Step) → Session × List (Step × Reply)
  | [] => (session, [])
  | (engine, step) :: rest =>
      let next := session.stepWith engine step
      let last := next.1.runWith rest
      (last.1, (step, next.2) :: last.2)

/-- What a worker is created with and cannot be given again is the same. -/
structure SameSetup (first second : Session) : Prop where
  documents : first.worker.documents = second.worker.documents
  libs : first.worker.libs = second.worker.libs
  settings : first.worker.settings = second.worker.settings
  inlayHintsOptions : first.worker.inlayHintsOptions = second.worker.inlayHintsOptions

/-- Everything but the engine is the same. -/
structure Same (first second : Session) : Prop extends SameSetup first second where
  store : first.store = second.store
  extraLibs : first.worker.extraLibs = second.worker.extraLibs

theorem SameSetup.symm {first second : Session} (same : first.SameSetup second) :
    second.SameSetup first :=
  ⟨same.documents.symm, same.libs.symm, same.settings.symm, same.inlayHintsOptions.symm⟩

theorem SameSetup.trans {first second third : Session} (same : first.SameSetup second)
    (later : second.SameSetup third) : first.SameSetup third :=
  ⟨same.documents.trans later.documents, same.libs.trans later.libs,
    same.settings.trans later.settings, same.inlayHintsOptions.trans later.inlayHintsOptions⟩

/-! ## One engine for all steps -/

theorem step_engine (session : Session) (step : Step) :
    (session.step step).1.worker.engine = session.worker.engine := by
  cases step with
  | openDocument uri text version => rfl
  | updateDocument uri text => rfl
  | closeDocument uri => rfl
  | updateExtraLibs libs => rfl
  | call method given =>
      by_cases named : method = "updateExtraLibs"
      · subst named
        rcases Worker.dispatch_updateExtraLibs session.worker session.store given with
          ⟨cause, refused⟩ | ⟨item, libs, _, _, replaced⟩
        · simp only [step, refused]
        · simp only [step, replaced]
          rfl
      · simp only [step, Worker.dispatch_fst_of_ne _ _ _ named]

/-- A run is one in which the worker's own engine answers at every step. -/
theorem run_eq_runWith (session : Session) (steps : List Step) :
    session.run steps =
      ((session.runWith (steps.map fun step => (session.worker.engine, step))).1,
        (session.runWith (steps.map fun step => (session.worker.engine, step))).2.map
          Prod.snd) := by
  induction steps generalizing session with
  | nil => rfl
  | cons step rest induction =>
      have own : session.stepWith session.worker.engine step = session.step step := rfl
      have later := induction (session.step step).1
      rw [step_engine] at later
      simp only [run, List.map_cons, runWith, own, later]

/-! ## A single call -/

/-- What a call may leave behind. -/
structure CallKeeps (session : Session) (engine : Engine) (method : String) (given : Json) :
    Prop where
  failed : ∀ cause, (session.stepWith engine (.call method given)).2 = .answer (.error cause) →
    (session.stepWith engine (.call method given)).1.Same session
  other : method ≠ "updateExtraLibs" →
    (session.stepWith engine (.call method given)).1.Same session
  replaced : ∀ answer, method = "updateExtraLibs" →
    (session.stepWith engine (.call method given)).2 = .answer (.ok answer) →
    ∃ item libs, given = .array [item] ∧ ExtraLibs.Form item libs ∧
      (session.stepWith engine (.call method given)).1.Same
        { session with worker := { session.worker with extraLibs := libs } }

variable {session : Session} {engine : Engine} {method : String} {given : Json}

theorem same_of_engine (session : Session) (engine : Engine) :
    Same { session with worker := { session.worker with engine } } session :=
  ⟨⟨rfl, rfl, rfl, rfl⟩, rfl, rfl⟩

theorem stepWith_call_of_ne (session : Session) (engine : Engine) (given : Json)
    (other : method ≠ "updateExtraLibs") :
    (session.stepWith engine (.call method given)).1.Same session := by
  have kept : ({ session.worker with engine }.dispatch session.store method given).1 =
      { session.worker with engine } := Worker.dispatch_fst_of_ne _ _ _ other
  simp only [stepWith, step, kept]
  exact same_of_engine session engine

theorem stepWith_updateExtraLibs_of_form (session : Session) (engine : Engine) {item : Json}
    {libs : ExtraLibs} (form : ExtraLibs.Form item libs) :
    session.stepWith engine (.call "updateExtraLibs" (.array [item])) =
      ({ session with worker := { session.worker with engine }.updateExtraLibs libs },
        .answer (.ok .null)) := by
  simp only [stepWith, step, Worker.dispatch_updateExtraLibs_of_form _ _ form]

/-- A call that asks for a replacement is refused, or replaces all extra files at once. -/
theorem stepWith_updateExtraLibs (session : Session) (engine : Engine) (given : Json) :
    (∃ cause,
      (session.stepWith engine (.call "updateExtraLibs" given)).2 = .answer (.error cause) ∧
      (session.stepWith engine (.call "updateExtraLibs" given)).1.Same session) ∨
    ∃ item libs, given = .array [item] ∧ ExtraLibs.Form item libs ∧
      (session.stepWith engine (.call "updateExtraLibs" given)).2 = .answer (.ok .null) ∧
      (session.stepWith engine (.call "updateExtraLibs" given)).1.Same
        { session with worker := { session.worker with extraLibs := libs } } := by
  rcases Worker.dispatch_updateExtraLibs { session.worker with engine } session.store given with
    ⟨cause, refused⟩ | ⟨item, libs, array, form, replaced⟩
  · refine .inl ⟨cause, ?_⟩
    simp only [stepWith, step, refused]
    exact ⟨trivial, same_of_engine session engine⟩
  · refine .inr ⟨item, libs, array, form, ?_⟩
    simp only [stepWith, step, replaced]
    exact ⟨trivial, ⟨rfl, rfl, rfl, rfl⟩, rfl, rfl⟩

theorem callKeeps (session : Session) (engine : Engine) (method : String) (given : Json) :
    CallKeeps session engine method given := by
  by_cases named : method = "updateExtraLibs"
  · subst named
    rcases stepWith_updateExtraLibs session engine given with
      ⟨cause, reply, same⟩ | ⟨item, libs, array, form, reply, same⟩
    · constructor
      · exact fun _ _ => same
      · exact fun _ => same
      · intro answer _ succeeded
        cases reply.symm.trans succeeded
    · constructor
      · intro cause failed
        cases reply.symm.trans failed
      · exact fun other => absurd rfl other
      · exact fun _ _ _ => ⟨item, libs, array, form, same⟩
  · have same := stepWith_call_of_ne session engine given named
    exact ⟨fun _ _ => same, fun _ => same, fun _ equal => absurd equal named⟩

/-! ## A single step -/

theorem stepWith_sameSetup (session : Session) (engine : Engine) (step : Step) :
    (session.stepWith engine step).1.SameSetup session := by
  cases step with
  | openDocument uri text version => exact ⟨rfl, rfl, rfl, rfl⟩
  | updateDocument uri text => exact ⟨rfl, rfl, rfl, rfl⟩
  | closeDocument uri => exact ⟨rfl, rfl, rfl, rfl⟩
  | updateExtraLibs libs => exact ⟨rfl, rfl, rfl, rfl⟩
  | call method given =>
      by_cases named : method = "updateExtraLibs"
      · subst named
        rcases stepWith_updateExtraLibs session engine given with
          ⟨_, _, same⟩ | ⟨_, _, _, _, _, same⟩
        · exact same.toSameSetup
        · exact ⟨same.documents, same.libs, same.settings, same.inlayHintsOptions⟩
      · exact (stepWith_call_of_ne session engine given named).toSameSetup

theorem stepWith_store (session : Session) (engine : Engine) (step : Step) :
    (session.stepWith engine step).1.store =
      (session.store.performAll step.operation?.toList).1 := by
  cases step <;> rfl

theorem stepWith_store_of_none (session : Session) (engine : Engine) {step : Step}
    (performs : step.operation? = none) :
    (session.stepWith engine step).1.store = session.store := by
  rw [stepWith_store, performs]
  rfl

/-- A step replaces the extra files by those that the session has afterwards, or leaves
them. -/
theorem stepWith_extraLibs (session : Session) (engine : Engine) (step : Step) :
    Replaces (step, (session.stepWith engine step).2)
        (session.stepWith engine step).1.worker.extraLibs ∨
      (∀ libs, ¬ Replaces (step, (session.stepWith engine step).2) libs) ∧
        (session.stepWith engine step).1.worker.extraLibs = session.worker.extraLibs := by
  cases step with
  | openDocument uri text version => exact .inr ⟨nofun, rfl⟩
  | updateDocument uri text => exact .inr ⟨nofun, rfl⟩
  | closeDocument uri => exact .inr ⟨nofun, rfl⟩
  | updateExtraLibs libs => exact .inl (.direct libs _)
  | call method given =>
      by_cases named : method = "updateExtraLibs"
      · subst named
        rcases stepWith_updateExtraLibs session engine given with
          ⟨cause, reply, same⟩ | ⟨item, libs, rfl, form, reply, same⟩
        · rw [reply, same.extraLibs]
          exact .inr ⟨nofun, rfl⟩
        · rw [reply, same.extraLibs]
          exact .inl (.call form)
      · refine .inr ⟨?_, (stepWith_call_of_ne session engine given named).extraLibs⟩
        intro libs replaces
        generalize (session.stepWith engine (.call method given)).2 = reply at replaces
        cases replaces
        exact named rfl

/-! ## Runs -/

/-- The extra files behind a run that begins with `first`: those that the last replacement
has put in place, and `first` if there was none. -/
inductive Installed (first : ExtraLibs) (trace : List (Step × Reply)) : ExtraLibs → Prop
  | first (never : ∀ entry ∈ trace, ∀ libs, ¬ Replaces entry libs) :
      Installed first trace first
  | last {before after : List (Step × Reply)} {entry : Step × Reply} {libs : ExtraLibs}
      (split : trace = before ++ entry :: after) (replaces : Replaces entry libs)
      (never : ∀ later ∈ after, ∀ other, ¬ Replaces later other) :
      Installed first trace libs

theorem Installed.cons_of_replaces {first libs result : ExtraLibs} {entry : Step × Reply}
    {trace : List (Step × Reply)} (replaces : Replaces entry libs)
    (installed : Installed libs trace result) : Installed first (entry :: trace) result := by
  cases installed with
  | first never => exact .last (List.nil_append _).symm replaces never
  | last split latest never =>
      rw [split]
      exact .last (List.cons_append).symm latest never

theorem Installed.cons_of_not {first result : ExtraLibs} {entry : Step × Reply}
    {trace : List (Step × Reply)} (silent : ∀ libs, ¬ Replaces entry libs)
    (installed : Installed first trace result) : Installed first (entry :: trace) result := by
  cases installed with
  | first never => exact .first (List.forall_mem_cons.2 ⟨silent, never⟩)
  | last split latest never =>
      rw [split]
      exact .last (List.cons_append).symm latest never

/-- The state behind a run, read off the run. -/
structure Traced (session : Session) (steps : List (Engine × Step)) (last : Session)
    (trace : List (Step × Reply)) : Prop extends SameSetup last session where
  store : last.store =
    (session.store.performAll (steps.filterMap fun taken => taken.2.operation?)).1
  extraLibs : Installed session.worker.extraLibs trace last.worker.extraLibs

theorem traced_runWith (session : Session) (steps : List (Engine × Step)) :
    Traced session steps (session.runWith steps).1 (session.runWith steps).2 := by
  induction steps generalizing session with
  | nil => exact ⟨⟨rfl, rfl, rfl, rfl⟩, rfl, .first (List.forall_mem_nil _)⟩
  | cons taken rest induction =>
      rcases taken with ⟨engine, step⟩
      have setup := stepWith_sameSetup session engine step
      have later := induction (session.stepWith engine step).1
      refine ⟨later.toSameSetup.trans setup, ?_, ?_⟩
      · have store := later.store
        rw [stepWith_store] at store
        rw [runWith, store, List.filterMap_cons]
        cases step.operation? <;> rfl
      · rcases stepWith_extraLibs session engine step with replaces | ⟨silent, kept⟩
        · exact .cons_of_replaces replaces later.extraLibs
        · rw [← kept]
          exact .cons_of_not silent later.extraLibs

/-- The state behind a run that begins with the worker of a payload. All that the worker was
created with is still there, but for the extra files, which are those of the payload only until
they are replaced. -/
structure Keeps (context : WorkerContext) (payload : Payload) (store : Store)
    (steps : List (Engine × Step)) (last : Session) (trace : List (Step × Reply)) : Prop where
  documents : last.worker.documents = context.documents
  libs : last.worker.libs = context.libs
  settings : last.worker.settings = payload.compilerOptions
  inlayHintsOptions : last.worker.inlayHintsOptions = payload.inlayHintsOptions.getD .empty
  store : last.store = (store.performAll (steps.filterMap fun taken => taken.2.operation?)).1
  extraLibs : Installed payload.extraLibs trace last.worker.extraLibs

/-- Whatever the engines answer and whatever is called in between, a session that begins
with the worker of a payload keeps what the worker was created with. Its documents are those
of the operations on them, and its extra files those of the last replacement that
succeeded. Every call that comes next keeps all it does not replace. -/
theorem runWith_keeps (context : WorkerContext) (payload : Payload) (store : Store)
    (steps : List (Engine × Step)) :
    let run := runWith ⟨store, .ofPayload context payload⟩ steps
    Keeps context payload store steps run.1 run.2 ∧
      ∀ engine method given, CallKeeps run.1 engine method given := by
  intro run
  have traced := traced_runWith ⟨store, .ofPayload context payload⟩ steps
  constructor
  · exact ⟨traced.documents, traced.libs, traced.settings, traced.inlayHintsOptions, traced.store,
      traced.extraLibs⟩
  · intro engine method given
    exact callKeeps run.1 engine method given

end Session

end LanguageWorker
