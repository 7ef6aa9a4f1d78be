import LanguageWorker.Worker

namespace LanguageWorker

/-! Custom workers. A payload may name a locator. The factory registered under it
is handed the default constructor and what the worker will be built with, and
answers with the constructor to use instead. Factories and constructors may do
other things on the way, so they act in a monad; without one they are plain
functions. -/

/-- Makes a worker from its context and payload. -/
abbrev WorkerConstructor (m : Type → Type := Id) := WorkerContext → Payload → m Worker

def defaultConstructor {m : Type → Type} [Monad m] : WorkerConstructor m :=
  fun context payload => return .ofPayload context payload

/-- What a factory is handed. -/
structure FactoryContext (m : Type → Type := Id) where
  defaultConstructor : WorkerConstructor m
  engine : Engine
  libs : LibRegistry

/-- Makes the constructor of a custom worker. -/
abbrev WorkerFactory (m : Type → Type := Id) := FactoryContext m → m (WorkerConstructor m)

/-- The factories by their locators. -/
abbrev WorkerFactories (m : Type → Type := Id) := OrderedMap (WorkerFactory m)

namespace WorkerFactories

variable {m : Type → Type}

/-- Register a factory, in place of any earlier one of the same locator. -/
def register (factories : WorkerFactories m) (locator : String) (factory : WorkerFactory m) :
    WorkerFactories m :=
  factories.insert locator factory

end WorkerFactories

namespace Worker

variable {m : Type → Type} [Monad m]

/-- Make the worker that a payload asks for. -/
def create (context : WorkerContext) (payload : Payload) (factories : WorkerFactories m) :
    m (Except WorkerError Worker) := do
  match payload.customWorkerPath with
  | none => return .ok (← LanguageWorker.defaultConstructor context payload)
  | some locator =>
      match factories.get? locator with
      | none => return .error (.customWorkerMissing locator)
      | some factory =>
          let constructor ← factory
            { defaultConstructor := LanguageWorker.defaultConstructor
              engine := context.engine
              libs := context.libs }
          return .ok (← constructor context payload)

end Worker

end LanguageWorker
