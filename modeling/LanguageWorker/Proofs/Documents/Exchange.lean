import LanguageWorker.Proofs.Documents.Removal

namespace LanguageWorker.Store

/-! Operations on two documents in either order. Neither has an effect on what is found or comes
back for the other. In the listing an operation either puts its URI at the end or takes away what
it does not keep, and taking away can be exchanged with both. Only what is put at the end first
stands before what comes second. -/

namespace Operation

/-- The URIs of a listing behind an operation. -/
def relist : Operation → List String → List String
  | .openDocument uri _ _, keys => if uri ∈ keys then keys else keys ++ [uri]
  | .updateDocument _ _, keys => keys
  | .closeDocument uri, keys => keys.filter (· != uri)

/-- The operation opens a document that is not listed. -/
def Appends : Operation → List String → Prop
  | .openDocument uri _ _, keys => uri ∉ keys
  | _, _ => False

/-- What is listed remains so. -/
def keeps : Operation → String → Bool
  | .closeDocument uri, key => key != uri
  | _, _ => true

variable {first second operation : Operation} {keys : List String} {key : String}

theorem keeps_of_ne (different : key ≠ operation.uri) : operation.keeps key := by
  cases operation with
  | openDocument uri text version => rfl
  | updateDocument uri text => rfl
  | closeDocument uri => exact bne_iff_ne.2 different

theorem relist_of_appends (appends : operation.Appends keys) :
    operation.relist keys = keys ++ [operation.uri] := by
  cases operation with
  | openDocument uri text version => exact if_neg appends
  | updateDocument uri text => cases appends
  | closeDocument uri => cases appends

theorem relist_of_not_appends (kept : ¬ operation.Appends keys) :
    operation.relist keys = keys.filter operation.keeps := by
  have all : keys.filter (fun _ => true) = keys := List.filter_eq_self.2 fun _ _ => rfl
  cases operation with
  | openDocument uri text version => exact (if_pos (not_not.1 kept)).trans all.symm
  | updateDocument uri text => exact all.symm
  | closeDocument uri => rfl

theorem mem_relist_iff (different : key ≠ operation.uri) :
    key ∈ operation.relist keys ↔ key ∈ keys := by
  by_cases appends : operation.Appends keys
  · rw [relist_of_appends appends, List.mem_append, List.mem_singleton, or_iff_left different]
  · rw [relist_of_not_appends appends, List.mem_filter, and_iff_left (keeps_of_ne different)]

/-- Whether a document is opened anew is no matter of another document. -/
theorem appends_relist_iff (apart : first.uri ≠ second.uri) :
    first.Appends (second.relist keys) ↔ first.Appends keys := by
  cases first with
  | openDocument uri text version => exact not_congr (mem_relist_iff apart)
  | updateDocument uri text => exact Iff.rfl
  | closeDocument uri => exact Iff.rfl

theorem relist_relist_of_appends (apart : first.uri ≠ second.uri) (appends : first.Appends keys)
    (other : second.Appends keys) :
    second.relist (first.relist keys) = keys ++ [first.uri, second.uri] := by
  rw [relist_of_appends ((appends_relist_iff apart.symm).2 other), relist_of_appends appends,
    List.append_assoc]
  rfl

/-- What is put at the end is kept by the other operation. -/
theorem relist_comm_of_appends (apart : first.uri ≠ second.uri) (appends : first.Appends keys)
    (other : ¬ second.Appends keys) :
    first.relist (second.relist keys) = second.relist (first.relist keys) := by
  have otherStill : ¬ second.Appends (first.relist keys) :=
    mt (appends_relist_iff apart.symm).1 other
  rw [relist_of_appends ((appends_relist_iff apart).2 appends), relist_of_not_appends otherStill,
    relist_of_not_appends other, relist_of_appends appends, List.filter_append,
    List.filter_singleton, keeps_of_ne apart]
  rfl

theorem relist_comm (apart : first.uri ≠ second.uri)
    (once : ¬ (first.Appends keys ∧ second.Appends keys)) :
    first.relist (second.relist keys) = second.relist (first.relist keys) := by
  by_cases appends : first.Appends keys
  · exact relist_comm_of_appends apart appends fun other => once ⟨appends, other⟩
  · by_cases other : second.Appends keys
    · exact (relist_comm_of_appends apart.symm other appends).symm
    · have still : ¬ first.Appends (second.relist keys) := mt (appends_relist_iff apart).1 appends
      have otherStill : ¬ second.Appends (first.relist keys) :=
        mt (appends_relist_iff apart.symm).1 other
      rw [relist_of_not_appends still, relist_of_not_appends otherStill,
        relist_of_not_appends appends, relist_of_not_appends other]
      exact List.filter_comm _ _ _

end Operation

open Operation

variable {first second : Operation} {store : Store}

/-- The operation opens a document that is not open. -/
def Adds (store : Store) (operation : Operation) : Prop :=
  operation.Appends store.listing.keys

theorem keys_perform (store : Store) (operation : Operation) :
    (store.perform operation).1.listing.keys = operation.relist store.listing.keys := by
  cases operation with
  | openDocument uri text version => exact keys_openDocument store uri text version
  | updateDocument uri text =>
      exact congrArg OrderedMap.keys (listing_updateDocument store uri text)
  | closeDocument uri => exact keys_closeDocument store uri

theorem perform_snd_of_ne (store : Store) (apart : first.uri ≠ second.uri) :
    ((store.perform second).1.perform first).2 = (store.perform first).2 :=
  perform_snd_congr (store.get?_perform_of_ne apart.symm)

/-- The later operation finds its own document as it would without the earlier one. -/
theorem get?_perform_comm (store : Store) (apart : first.uri ≠ second.uri) (uri : String) :
    ((store.perform first).1.perform second).1.get? uri =
      ((store.perform second).1.perform first).1.get? uri := by
  by_cases here : first.uri = uri
  · have elsewhere : second.uri ≠ uri := fun same => apart (here.trans same.symm)
    rw [get?_perform_of_ne _ elsewhere]
    exact get?_perform_congr (store.get?_perform_of_ne elsewhere).symm first
  · rw [get?_perform_of_ne _ here]
    exact get?_perform_congr (store.get?_perform_of_ne here) second

theorem keys_perform_of_adds (apart : first.uri ≠ second.uri) (adds : store.Adds first)
    (other : store.Adds second) :
    ((store.perform first).1.perform second).1.listing.keys =
      store.listing.keys ++ [first.uri, second.uri] := by
  rw [keys_perform, keys_perform]
  exact relist_relist_of_appends apart adds other

/-- Unless both are added, the two documents are found and listed in the same way. -/
theorem directory_perform_comm (apart : first.uri ≠ second.uri)
    (once : ¬ (store.Adds first ∧ store.Adds second)) :
    ((store.perform first).1.perform second).1.directory =
      ((store.perform second).1.perform first).1.directory := by
  apply directory_eq
  · simp only [keys_perform]
    exact (relist_comm apart once).symm
  · exact store.get?_perform_comm apart

end LanguageWorker.Store
