import LanguageWorker.Proofs.Service.Diagnostic

namespace LanguageWorker

/-! What is left of diagnostics when the references to files are taken away. Nothing but the
references goes, so a list that could be written before is written as it was, and taking
them away again changes nothing. -/

/-- The same entry without a file. -/
structure RelatedInformation.Cleared (related cleared : RelatedInformation) : Prop where
  file : cleared.file = none
  start : cleared.start = related.start
  length : cleared.length = related.length
  messageText : cleared.messageText = related.messageText
  category : cleared.category = related.category
  code : cleared.code = related.code

/-- The same diagnostic without a file. It has related entries only if there were any before,
and then as many, each of them cleared in its place. -/
structure Diagnostic.Cleared (diagnostic cleared : Diagnostic) : Prop where
  file : cleared.file = none
  start : cleared.start = diagnostic.start
  length : cleared.length = diagnostic.length
  messageText : cleared.messageText = diagnostic.messageText
  category : cleared.category = diagnostic.category
  code : cleared.code = diagnostic.code
  source : cleared.source = diagnostic.source
  relatedInformation : Option.Rel (List.Forall₂ RelatedInformation.Cleared)
    diagnostic.relatedInformation cleared.relatedInformation

theorem RelatedInformation.cleared_sanitize (related : RelatedInformation) :
    related.Cleared related.sanitize :=
  ⟨rfl, rfl, rfl, rfl, rfl, rfl⟩

theorem Diagnostic.cleared_sanitize (diagnostic : Diagnostic) :
    diagnostic.Cleared diagnostic.sanitize := by
  refine ⟨rfl, rfl, rfl, rfl, rfl, rfl, rfl, ?_⟩
  rw [sanitize]
  cases diagnostic.relatedInformation with
  | none => exact .none
  | some entries =>
      apply Option.Rel.some
      apply List.forall₂_map_right_iff.2
      apply List.forall₂_same.2
      intro entry _
      exact entry.cleared_sanitize

/-! ## Where there is nothing to take away -/

theorem RelatedInformation.sanitize_of_unbound {related : RelatedInformation}
    (unbound : related.file = none) : related.sanitize = related := by
  rw [sanitize, ← unbound]

theorem Diagnostic.sanitize_of_unbound {diagnostic : Diagnostic} (unbound : diagnostic.Unbound) :
    diagnostic.sanitize = diagnostic := by
  have kept : (diagnostic.relatedInformation.map fun entries =>
      entries.map RelatedInformation.sanitize) = diagnostic.relatedInformation := by
    cases present : diagnostic.relatedInformation with
    | none => rfl
    | some entries =>
        have each := List.map_congr_left fun entry member =>
          RelatedInformation.sanitize_of_unbound (unbound.2 entries present entry member)
        rw [Option.map_some, each, List.map_id']
  rw [sanitize, kept, ← unbound.1]

namespace Diagnostics

variable {diagnostics : List Diagnostic}

theorem sanitize_of_unbound (unbound : ∀ diagnostic ∈ diagnostics, diagnostic.Unbound) :
    sanitize diagnostics = diagnostics := by
  rw [sanitize, List.map_congr_left fun diagnostic member =>
    Diagnostic.sanitize_of_unbound (unbound diagnostic member), List.map_id']

theorem toJson_eq_ok_iff_sanitize {item : Json} :
    toJson diagnostics = .ok item ↔
      (∀ diagnostic ∈ diagnostics, diagnostic.Unbound) ∧ toJson (sanitize diagnostics) = .ok item := by
  constructor
  · intro written
    have unbound := exists_toJson_iff.1 ⟨item, written⟩
    exact ⟨unbound, (sanitize_of_unbound unbound).symm ▸ written⟩
  · intro described
    exact sanitize_of_unbound described.1 ▸ described.2

/-! ## In place -/

/-- The loop after `count` rounds has cleared what stands before `count`, and nothing else. -/
theorem getElem?_clearing (diagnostics : Array Diagnostic) (count index : Nat) :
    ((List.range count).foldl (fun cleared index => cleared.modify index Diagnostic.sanitize)
        diagnostics)[index]? =
      if index < count then diagnostics[index]?.map Diagnostic.sanitize else diagnostics[index]? := by
  induction count with
  | zero => rfl
  | succ count induction =>
      rw [List.range_succ, List.foldl_append, List.foldl_cons, List.foldl_nil,
        Array.getElem?_modify, induction]
      by_cases here : count = index
      · subst here
        simp
      · rw [if_neg here]
        have before : index < count ↔ index < count + 1 := by omega
        simp only [before]

theorem clearFiles_eq_map (diagnostics : Array Diagnostic) :
    clearFiles diagnostics = diagnostics.map Diagnostic.sanitize := by
  apply Array.ext_getElem?
  intro index
  rw [clearFiles, getElem?_clearing, Array.getElem?_map]
  split
  · rfl
  · next beyond =>
      have missing : diagnostics[index]? = none :=
        Array.getElem?_eq_none (Nat.le_of_not_lt beyond)
      rw [missing, Option.map_none]

/-- When diagnostics can be written and where the writing stops, what is left of them without
their references, and that it makes no difference to do this twice, in place or for
diagnostics that can be written. -/
theorem writing_and_clearing (diagnostics : List Diagnostic) :
    ((∃ item, toJson diagnostics = .ok item) ↔
      ∀ diagnostic ∈ diagnostics, diagnostic.Unbound) ∧
    (∀ reference, toJson diagnostics = .error reference ↔
      ∃ file, (references diagnostics).head? = some file ∧ reference = ⟨file.fileName⟩) ∧
    List.Forall₂ Diagnostic.Cleared diagnostics (sanitize diagnostics) ∧
    sanitize (sanitize diagnostics) = sanitize diagnostics ∧
    clearFiles diagnostics.toArray = (sanitize diagnostics).toArray ∧
    (∃ item, toJson (sanitize diagnostics) = .ok item) ∧
    ∀ item, toJson diagnostics = .ok item ↔
      (∀ diagnostic ∈ diagnostics, diagnostic.Unbound) ∧
        toJson (sanitize diagnostics) = .ok item := by
  refine ⟨exists_toJson_iff, fun _ => (stopsAt_toJson diagnostics).eq_error_iff, ?_, ?_, ?_,
    exists_toJson_sanitize diagnostics, fun _ => toJson_eq_ok_iff_sanitize⟩
  · apply List.forall₂_map_right_iff.2
    apply List.forall₂_same.2
    intro diagnostic _
    exact diagnostic.cleared_sanitize
  · apply sanitize_of_unbound
    intro diagnostic member
    exact unbound_of_mem_sanitize member
  · rw [clearFiles_eq_map, List.map_toArray]
    rfl

end Diagnostics

end LanguageWorker
