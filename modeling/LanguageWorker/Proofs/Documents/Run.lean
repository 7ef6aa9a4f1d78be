import LanguageWorker.Proofs.Documents.Operations

namespace LanguageWorker.Store

/-! Runs of a store: the operations of an editor as data, performed one after the
other, with what each of them comes back with. -/

/-- An operation on a store, with its arguments. -/
inductive Operation where
  | openDocument (uri text : String) (version : Int32)
  | updateDocument (uri text : String)
  | closeDocument (uri : String)
  deriving DecidableEq, Repr

/-- The URI that an operation is about. -/
def Operation.uri : Operation → String
  | .openDocument uri _ _ => uri
  | .updateDocument uri _ => uri
  | .closeDocument uri => uri

/-- What an operation comes back with. -/
inductive Outcome where
  | opened
  | updated (outcome : UpdateOutcome)
  | closed (wasOpen : Bool)
  deriving DecidableEq, Repr

def perform (store : Store) : Operation → Store × Outcome
  | .openDocument uri text version => (store.openDocument uri text version, .opened)
  | .updateDocument uri text =>
      ((store.updateDocument uri text).1, .updated (store.updateDocument uri text).2)
  | .closeDocument uri =>
      ((store.closeDocument uri).1, .closed (store.closeDocument uri).2)

/-- Perform operations in their order and collect the outcomes. -/
def performAll (store : Store) : List Operation → Store × List Outcome
  | [] => (store, [])
  | operation :: rest =>
      let next := store.perform operation
      let last := next.1.performAll rest
      (last.1, next.2 :: last.2)

/-- Whether an operation is an update of a document that has the last version. -/
def Exhausts (store : Store) : Operation → Prop
  | .updateDocument uri _ => (store.get? uri).map Document.version = some Int32.maxValue
  | _ => False

/-- No operation of a run is an update of a document that has the last version. -/
def NeverExhausts (store : Store) : List Operation → Prop
  | [] => True
  | operation :: rest =>
      ¬ store.Exhausts operation ∧ (store.perform operation).1.NeverExhausts rest

variable (store : Store)

@[simp] theorem performAll_nil : store.performAll [] = (store, []) := rfl

@[simp] theorem performAll_cons (operation : Operation) (rest : List Operation) :
    store.performAll (operation :: rest) =
      (((store.perform operation).1.performAll rest).1,
        (store.perform operation).2 :: ((store.perform operation).1.performAll rest).2) :=
  rfl

theorem get?_perform_of_ne {operation : Operation} {other : String}
    (different : operation.uri ≠ other) :
    (store.perform operation).1.get? other = store.get? other := by
  cases operation with
  | openDocument uri text version =>
      exact (get?_openDocument store uri text other version).trans (if_neg different.symm)
  | updateDocument uri text =>
      exact (get?_updateDocument store uri text other).trans (if_neg different.symm)
  | closeDocument uri =>
      exact (get?_closeDocument store uri other).trans (if_neg different.symm)

theorem performAll_append (before after : List Operation) :
    store.performAll (before ++ after) =
      (((store.performAll before).1.performAll after).1,
        (store.performAll before).2 ++ ((store.performAll before).1.performAll after).2) := by
  induction before generalizing store with
  | nil => rfl
  | cons operation rest induction => simp [induction]

theorem length_performAll (operations : List Operation) :
    (store.performAll operations).2.length = operations.length := by
  induction operations generalizing store with
  | nil => rfl
  | cons operation rest induction => simp [induction]

/-- The outcome at a position is that of performing the operation there. -/
theorem getElem?_performAll (before after : List Operation) (operation : Operation) :
    (store.performAll (before ++ operation :: after)).2[before.length]? =
      some ((store.performAll before).1.perform operation).2 := by
  have behind : (store.performAll before).2.length = before.length :=
    length_performAll store before
  rw [performAll_append, performAll_cons, ← behind, List.getElem?_append_right (Nat.le_refl _),
    Nat.sub_self, List.getElem?_cons_zero]

theorem neverExhausts_append (before after : List Operation) :
    store.NeverExhausts (before ++ after) ↔
      store.NeverExhausts before ∧ (store.performAll before).1.NeverExhausts after := by
  induction before generalizing store with
  | nil => simp [NeverExhausts]
  | cons operation rest induction => simp [NeverExhausts, induction, and_assoc]

end LanguageWorker.Store
