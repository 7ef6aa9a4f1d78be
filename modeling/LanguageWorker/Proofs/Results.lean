import Mathlib.Data.List.Forall2

namespace LanguageWorker.Results

/-! When a chain of steps that may fail succeeds: each step does, on what the one before
it came to. -/

variable {ε α β : Type}

theorem bind_eq_ok_iff {first : Except ε α} {next : α → Except ε β} {result : β} :
    first >>= next = .ok result ↔ ∃ value, first = .ok value ∧ next value = .ok result := by
  cases first with
  | error cause => exact iff_of_false nofun nofun
  | ok value =>
      refine ⟨fun succeeds => ⟨value, rfl, succeeds⟩, ?_⟩
      intro described
      rcases described with ⟨_, same, succeeds⟩
      exact Except.ok.inj same ▸ succeeds

theorem map_eq_ok_iff {first : Except ε α} {transform : α → β} {result : β} :
    first.map transform = .ok result ↔ ∃ value, first = .ok value ∧ transform value = result := by
  cases first with
  | error cause => exact iff_of_false nofun nofun
  | ok value =>
      refine ⟨fun equal => ⟨value, rfl, Except.ok.inj equal⟩, ?_⟩
      intro described
      rcases described with ⟨_, same, equal⟩
      exact congrArg Except.ok (Except.ok.inj same ▸ equal)

theorem map_eq_error_iff {first : Except ε α} {transform : α → β} {cause : ε} :
    first.map transform = .error cause ↔ first = .error cause := by
  cases first with
  | error other => simp only [Except.map, Except.error.injEq]
  | ok value => exact iff_of_false nofun nofun

theorem eq_of_map_eq {transform : α → β} (injective : transform.Injective)
    {first second : Except ε α} (same : first.map transform = second.map transform) :
    first = second := by
  cases first with
  | error cause => exact (map_eq_error_iff.1 same.symm).symm
  | ok value =>
      rcases map_eq_ok_iff.1 same.symm with ⟨other, rfl, equal⟩
      exact congrArg Except.ok (injective equal).symm

theorem guarded_eq_ok_iff {refused : Prop} [Decidable refused] {cause : ε} {value result : α} :
    (if refused then .error cause else .ok value : Except ε α) = .ok result ↔
      ¬ refused ∧ value = result := by
  by_cases here : refused
  · rw [if_pos here]
    exact iff_of_false nofun fun accepted => accepted.1 here
  · rw [if_neg here, Except.ok.injEq]
    exact (and_iff_right here).symm

theorem mapM_eq_ok_iff {step : α → Except ε β} {items : List α} {results : List β} :
    items.mapM step = .ok results ↔
      List.Forall₂ (fun item result => step item = .ok result) items results := by
  induction items generalizing results with
  | nil =>
      rw [List.forall₂_nil_left_iff]
      exact ⟨fun equal => (Except.ok.inj equal).symm, fun equal => equal ▸ rfl⟩
  | cons item rest induction =>
      simp only [List.mapM_cons, bind_eq_ok_iff, induction, List.forall₂_cons_left_iff]
      constructor
      · intro succeeds
        rcases succeeds with ⟨result, here, results, later, equal⟩
        exact ⟨result, results, here, later, (Except.ok.inj equal).symm⟩
      · intro described
        rcases described with ⟨result, results, here, later, rfl⟩
        exact ⟨result, here, results, later, rfl⟩

/-- What each step comes to has the property, and so has all that they come to. -/
theorem forall_mem_of_mapM {property : β → Prop} {step : α → Except ε β}
    (holds : ∀ item result, step item = .ok result → property result)
    {items : List α} {results : List β} (succeeds : items.mapM step = .ok results) :
    ∀ result ∈ results, property result := by
  have both : List.Forall₂ (fun result item => property result ∧ step item = .ok result)
      results items :=
    (mapM_eq_ok_iff.1 succeeds).flip.imp fun result item here => ⟨holds item result here, here⟩
  exact ((List.forall₂_and_left results items).1 both).1

/-- What every step keeps, all of them keep. -/
theorem holds_of_foldlM {invariant : β → Prop} {step : β → α → Except ε β}
    (keeps : ∀ state item next, invariant state → step state item = .ok next → invariant next)
    {items : List α} {start last : β} (holds : invariant start)
    (folded : items.foldlM step start = .ok last) : invariant last := by
  induction items generalizing start with
  | nil =>
      cases folded
      exact holds
  | cons item rest induction =>
      rcases bind_eq_ok_iff.1 folded with ⟨next, here, later⟩
      exact induction (keeps start item next holds here) later

theorem filterAuxM_eq_ok {keep : α → Except ε Bool} {selected : α → Bool} {items : List α}
    (each : ∀ item ∈ items, keep item = .ok (selected item)) (kept : List α) :
    items.filterAuxM keep kept = .ok ((items.filter selected).reverse ++ kept) := by
  induction items generalizing kept with
  | nil => rfl
  | cons item rest induction =>
      have others := induction fun later member => each later (.tail _ member)
      rw [List.filterAuxM, each item (.head _)]
      apply (others _).trans
      cases chosen : selected item with
      | false => rw [List.filter_cons_of_neg (by simp [chosen]), cond_false]
      | true =>
          rw [List.filter_cons_of_pos chosen, cond_true, List.reverse_cons, List.append_assoc]
          rfl

/-- Where no decision fails, the items decided for are left. -/
theorem filterM_eq_ok {keep : α → Except ε Bool} {selected : α → Bool} {items : List α}
    (each : ∀ item ∈ items, keep item = .ok (selected item)) :
    items.filterM keep = .ok (items.filter selected) := by
  rw [List.filterM, filterAuxM_eq_ok each, List.append_nil]
  exact congrArg Except.ok (List.reverse_reverse _)

end LanguageWorker.Results
