import LanguageWorker.Proofs.OrderedMap
import LanguageWorker.Proofs.Session.Run
import LanguageWorker.Service.MarkerEngine
import LanguageWorker.Worker.Factory

namespace LanguageWorker

/-! How workers are made. Factories are registered one after the other, and a payload may ask for
one of them by its locator. Whatever a factory or a constructor reads and changes besides is
gathered in a world; what happens to it tells which of them have been used. The main statement
goes through the payloads: those that ask for nothing, for a factory that is there, and for one
that is not. -/

namespace WorkerFactories

variable {m : Type → Type}

/-- The factories behind some registrations, made one after the other. -/
def registerAll (registrations : List (String × WorkerFactory m)) : WorkerFactories m :=
  registrations.foldl (fun factories entry => factories.register entry.1 entry.2) .empty

variable {registrations : List (String × WorkerFactory m)} {locator : String}

theorem get?_registerAll_of_absent (absent : ∀ entry ∈ registrations, entry.1 ≠ locator) :
    (registerAll registrations).get? locator = none :=
  OrderedMap.get?_ofList_of_absent absent

theorem get?_registerAll_of_lastEntry {factory : WorkerFactory m}
    (last : OrderedMap.LastEntry registrations locator factory) :
    (registerAll registrations).get? locator = some factory :=
  OrderedMap.get?_ofList_of_lastEntry last

end WorkerFactories

namespace Worker

open WorkerFactories

/-- What a factory is handed for a context. -/
def handed (m : Type → Type) [Monad m] (context : WorkerContext) : FactoryContext m where
  defaultConstructor := LanguageWorker.defaultConstructor
  engine := context.engine
  libs := context.libs

variable {σ : Type} {context : WorkerContext} {payload : Payload} {locator : String}

/-! ## The three kinds of payloads -/

section Run

variable {factories : WorkerFactories (StateM σ)}

theorem create_of_plain (plain : payload.customWorkerPath = none) (world : σ) :
    (create context payload factories).run world = (.ok (ofPayload context payload), world) := by
  simp only [create, plain]
  rfl

theorem create_of_missing (asked : payload.customWorkerPath = some locator)
    (missing : factories.get? locator = none) (world : σ) :
    (create context payload factories).run world =
      (.error (.customWorkerMissing locator), world) := by
  simp only [create, asked, missing]
  rfl

theorem create_of_found {factory : WorkerFactory (StateM σ)}
    (asked : payload.customWorkerPath = some locator)
    (found : factories.get? locator = some factory) (world : σ) :
    (create context payload factories).run world =
      let made := (factory (handed _ context)).run world
      let built := (made.1 context payload).run made.2
      (.ok built.1, built.2) := by
  simp only [create, asked, found]
  rfl

/-- A constructor that is the default one builds the worker of the payload. -/
theorem create_of_default {factory : WorkerFactory (StateM σ)} {world : σ}
    (asked : payload.customWorkerPath = some locator)
    (found : factories.get? locator = some factory)
    (returned : ((factory (handed _ context)).run world).1 = LanguageWorker.defaultConstructor) :
    ((create context payload factories).run world).1 = .ok (ofPayload context payload) := by
  simp only [create_of_found asked found, returned]
  rfl

end Run

/-! ## Registrations -/

/-- What becomes of a payload, after some registrations. -/
structure Creates (context : WorkerContext) (payload : Payload)
    (registrations : List (String × WorkerFactory (StateM σ))) : Prop where
  failed_iff : ∀ error world after,
    (create context payload (registerAll registrations)).run world = (.error error, after) ↔
      after = world ∧ ∃ locator, payload.customWorkerPath = some locator ∧
        error = .customWorkerMissing locator ∧ ∀ entry ∈ registrations, entry.1 ≠ locator
  plain : payload.customWorkerPath = none → ∀ world,
    (create context payload (registerAll registrations)).run world =
      (.ok (ofPayload context payload), world)
  /-- The factory of the last registration acts, then the constructor that it returns, and
  nothing else. -/
  custom : ∀ locator factory, payload.customWorkerPath = some locator →
    OrderedMap.LastEntry registrations locator factory → ∀ world,
    (create context payload (registerAll registrations)).run world =
      let made := (factory (handed _ context)).run world
      let built := (made.1 context payload).run made.2
      (.ok built.1, built.2)
  /-- Where it returns the default constructor, nobody can tell the worker from that of the
  payload without the locator. -/
  likePlain : ∀ locator factory world, payload.customWorkerPath = some locator →
    OrderedMap.LastEntry registrations locator factory →
    ((factory (handed _ context)).run world).1 = LanguageWorker.defaultConstructor →
    ∀ (others : List (String × WorkerFactory (StateM σ))) (elsewhere : σ), ∃ worker plain,
      ((create context payload (registerAll registrations)).run world).1 = .ok worker ∧
      ((create context { payload with customWorkerPath := none } (registerAll others)).run
        elsewhere).1 = .ok plain ∧
      ∀ store,
        (∀ steps, Session.run ⟨store, worker⟩ steps = Session.run ⟨store, plain⟩ steps) ∧
        ∀ steps, Session.runWith ⟨store, worker⟩ steps = Session.runWith ⟨store, plain⟩ steps

variable {registrations : List (String × WorkerFactory (StateM σ))}

theorem create_failed_iff {error : WorkerError} {world after : σ} :
    (create context payload (registerAll registrations)).run world = (.error error, after) ↔
      after = world ∧ ∃ locator, payload.customWorkerPath = some locator ∧
        error = .customWorkerMissing locator ∧ ∀ entry ∈ registrations, entry.1 ≠ locator := by
  cases asked : payload.customWorkerPath with
  | none =>
      rw [create_of_plain asked]
      exact iff_of_false nofun nofun
  | some locator =>
      rcases OrderedMap.absent_or_lastEntry registrations locator with absent | ⟨factory, last⟩
      · rw [create_of_missing asked (get?_registerAll_of_absent absent)]
        constructor
        · intro same
          cases same
          exact ⟨rfl, locator, rfl, rfl, absent⟩
        · intro described
          rcases described with ⟨rfl, _, same, rfl, _⟩
          cases same
          rfl
      · rw [create_of_found asked (get?_registerAll_of_lastEntry last)]
        apply iff_of_false nofun
        intro described
        rcases described with ⟨_, _, same, _, absent⟩
        cases same
        rcases last with ⟨_, _, rfl, _⟩
        exact absent _ (List.mem_append_right _ List.mem_cons_self) rfl

/-- Only a payload that asks for a factory that nobody has registered is refused. A factory that is
asked for decides on the constructor, and without one the worker is that of the payload. -/
theorem creates (context : WorkerContext) (payload : Payload)
    (registrations : List (String × WorkerFactory (StateM σ))) :
    Creates context payload registrations where
  failed_iff _ _ _ := create_failed_iff
  plain plain world := create_of_plain plain world
  custom locator factory asked last world :=
    create_of_found asked (get?_registerAll_of_lastEntry last) world
  likePlain := by
    intro locator factory world asked last returned others elsewhere
    have found := get?_registerAll_of_lastEntry last
    refine ⟨ofPayload context payload, ofPayload context { payload with customWorkerPath := none },
      create_of_default asked found returned, ?_, ?_⟩
    · rw [create_of_plain rfl]
    · exact fun store => ⟨fun steps => rfl, fun steps => rfl⟩

/-- A factory that leaves its name in the world and is content with the default constructor. -/
def noting (name : String) : WorkerFactory (StateM (List String)) := fun given => do
  modify fun names => names ++ [name]
  return given.defaultConstructor

example :
    let context : WorkerContext := ⟨Store.directory, markerEngine, .empty⟩
    let factories := registerAll [("", noting "first"), ("b", noting "other"), ("", noting "last")]
    ((create context { Payload.empty with customWorkerPath := some "" } factories).run []).2 =
      ["last"] := by
  decide

end Worker

end LanguageWorker
