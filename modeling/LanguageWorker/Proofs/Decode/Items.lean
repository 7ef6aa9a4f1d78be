import LanguageWorker.Proofs.Decode.Forms
import LanguageWorker.Proofs.Decode.Record

namespace LanguageWorker.Record

/-! Records read from the items of an array. The fields take the items one by one, and their
stand-ins once there are no more. Of a record made of two others, the second takes the
items that the first leaves. -/

variable {α β : Type}

/-- What one field takes from the front of some items, and the items after that. -/
def Takes {Draft : Type} (field : Field Draft) :
    List Json → (Draft → Draft) → List Json → Prop
  | [], fill, rest => field.standIn = some fill ∧ rest = []
  | item :: items, fill, rest => field.decoder.ofJson item = .ok fill ∧ rest = items

/-- What fields make of a draft, one after the other, and the items that are left over. -/
def Fills {Draft : Type} : List (Field Draft) → List Json → Draft → Draft → List Json → Prop
  | [], items, draft, filled, surplus => draft = filled ∧ items = surplus
  | field :: fields, items, draft, filled, surplus =>
      ∃ fill rest, Takes field items fill rest ∧ Fills fields rest (fill draft) filled surplus

theorem takeItems_eq_ok_iff {Draft : Type} {tooShort : Nat → DecodeError} {index : Nat}
    {fields : List (Field Draft)} {items surplus : List Json} {draft filled : Draft} :
    takeItems (fun field => field.decoder.ofJson) tooShort index fields items draft =
        .ok (filled, surplus) ↔
      Fills fields items draft filled surplus := by
  induction fields generalizing index items draft with
  | nil => simp [takeItems, Fills]
  | cons field fields induction =>
      cases items with
      | nil =>
          rw [takeItems, Fills]
          cases settled : field.standIn with
          | none => simp [Takes, settled]
          | some fill => simp [Takes, settled, induction]
      | cons item items => simp [takeItems, Fills, Takes, Results.bind_eq_ok_iff, induction]

theorem fills_append_iff {Draft : Type} {fields others : List (Field Draft)}
    {items surplus : List Json} {draft filled : Draft} :
    Fills (fields ++ others) items draft filled surplus ↔
      ∃ between rest, Fills fields items draft between rest ∧
        Fills others rest between filled surplus := by
  induction fields generalizing items draft with
  | nil => simp [Fills]
  | cons field fields induction =>
      simp only [List.cons_append, Fills, induction]
      constructor
      · intro fills
        rcases fills with ⟨fill, items, takes, between, rest, here, later⟩
        exact ⟨between, rest, ⟨fill, items, takes, here⟩, later⟩
      · intro described
        rcases described with ⟨between, rest, ⟨fill, items, takes, here⟩, later⟩
        exact ⟨fill, items, takes, between, rest, here, later⟩

namespace Part

variable {Inner Draft : Type}

theorem takes_lift_iff {part : Part Inner Draft} {field : Field Inner} {items rest : List Json}
    {fill : Draft → Draft} :
    Takes (part.lift field) items fill rest ↔
      ∃ inner, Takes field items inner rest ∧ part.widen inner = fill := by
  cases items with
  | nil =>
      simp only [Takes, lift, Option.map_eq_some_iff, and_assoc, and_comm, exists_and_left]
  | cons item items =>
      simp only [Takes, lift, Decoder.map_ofJson_iff, and_assoc, and_comm, exists_and_left]

/-- Fields of a part leave the rest of the draft alone. -/
theorem fills_lift_iff {part : Part Inner Draft} {fields : List (Field Inner)}
    {items surplus : List Json} {draft filled : Draft} :
    Fills (fields.map part.lift) items draft filled surplus ↔
      ∃ inner, Fills fields items (part.get draft) inner surplus ∧
        part.put inner draft = filled := by
  induction fields generalizing items draft with
  | nil =>
      simp only [List.map_nil, Fills]
      constructor
      · intro same
        exact ⟨part.get draft, ⟨rfl, same.2⟩, (part.put_get draft).trans same.1⟩
      · intro described
        rcases described with ⟨_, ⟨rfl, same⟩, equal⟩
        exact ⟨(part.put_get draft).symm.trans equal, same⟩
  | cons field fields induction =>
      simp only [List.map_cons, Fills, takes_lift_iff, induction]
      constructor
      · intro fills
        rcases fills with ⟨_, rest, ⟨fill, here, rfl⟩, inner, later, equal⟩
        rw [widen, part.get_put] at later
        rw [widen, part.put_put] at equal
        exact ⟨inner, ⟨fill, rest, here, later⟩, equal⟩
      · intro described
        rcases described with ⟨inner, ⟨fill, rest, here, later⟩, equal⟩
        refine ⟨part.widen fill, rest, ⟨fill, here, rfl⟩, inner, ?_, ?_⟩
        · rw [widen, part.get_put]
          exact later
        · rw [widen, part.put_put]
          exact equal

end Part

/-- A value made from the front of some items, which leaves the others. -/
def ReadsItems (record : Record α) (items : List Json) (value : α) (surplus : List Json) : Prop :=
  ∃ draft, Fills record.fields items record.blank draft surplus ∧ record.finish draft = .ok value

/-- Fields take the items one after the other, so there is one way to read them. -/
theorem ReadsItems.unique {record : Record α} {items surplus : List Json} {value other : α}
    (reads : record.ReadsItems items value surplus)
    (otherReads : record.ReadsItems items other surplus) : value = other := by
  rcases reads with ⟨draft, fills, finished⟩
  rcases otherReads with ⟨otherDraft, otherFills, otherFinished⟩
  have taken := (@takeItems_eq_ok_iff _ (.invalidLength · "") 0 _ _ _ _ _).2 fills
  have otherTaken := (@takeItems_eq_ok_iff _ (.invalidLength · "") 0 _ _ _ _ _).2 otherFills
  cases taken.symm.trans otherTaken
  exact Except.ok.inj (finished.symm.trans otherFinished)

theorem fills_and_iff {first : Record α} {second : Record β} {items surplus : List Json}
    {draft filled : (first.and second).Draft} :
    Fills (first.and second).fields items draft filled surplus ↔
      ∃ rest, Fills first.fields items draft.1 filled.1 rest ∧
        Fills second.fields rest draft.2 filled.2 surplus := by
  rw [fields_and]
  refine fills_append_iff.trans ?_
  constructor
  · intro fills
    rcases fills with ⟨between, rest, front, back⟩
    rcases Part.fills_lift_iff.1 front with ⟨inner, here, rfl⟩
    rcases Part.fills_lift_iff.1 back with ⟨inner', later, rfl⟩
    exact ⟨rest, here, later⟩
  · intro described
    rcases described with ⟨rest, here, later⟩
    refine ⟨(filled.1, draft.2), rest, ?_, ?_⟩
    · exact Part.fills_lift_iff.2 ⟨filled.1, here, rfl⟩
    · exact Part.fills_lift_iff.2 ⟨filled.2, later, rfl⟩

theorem readsItems_and_iff {first : Record α} {second : Record β} {items surplus : List Json}
    {value : α × β} :
    (first.and second).ReadsItems items value surplus ↔
      ∃ rest, first.ReadsItems items value.1 rest ∧ second.ReadsItems rest value.2 surplus := by
  simp only [ReadsItems, fills_and_iff, finish_and_eq_ok_iff]
  constructor
  · intro reads
    rcases reads with ⟨draft, ⟨rest, here, later⟩, finished, finished'⟩
    exact ⟨rest, ⟨draft.1, here, finished⟩, draft.2, later, finished'⟩
  · intro described
    rcases described with ⟨rest, ⟨draft, here, finished⟩, draft', later, finished'⟩
    exact ⟨(draft, draft'), ⟨rest, here, later⟩, finished, finished'⟩

theorem readsItems_map_iff {record : Record α} {transform : α → β} {items surplus : List Json}
    {value : β} :
    (record.map transform).ReadsItems items value surplus ↔
      ∃ read, record.ReadsItems items read surplus ∧ transform read = value := by
  simp only [ReadsItems, map, Results.map_eq_ok_iff]
  constructor
  · intro succeeds
    rcases succeeds with ⟨draft, fills, read, finished, equal⟩
    exact ⟨read, ⟨draft, fills, finished⟩, equal⟩
  · intro described
    rcases described with ⟨read, ⟨draft, fills, finished⟩, equal⟩
    exact ⟨draft, fills, read, finished, equal⟩

/-- A field takes its stand-in where there are no items, and else the first of them. -/
theorem readsItems_field_iff {name : String} {decoder : Decoder α} {absent : Except DecodeError α}
    {standIn : Option α} {items surplus : List Json} {value : α} :
    (field name decoder absent standIn).ReadsItems items value surplus ↔
      (items = [] ∧ surplus = [] ∧ standIn = some value) ∨
        ∃ item, items = item :: surplus ∧ decoder.ofJson item = .ok value := by
  simp only [ReadsItems, field, Fills]
  cases items with
  | nil => simp [Takes, and_comm]
  | cons item items => simp [Takes, Decoder.map_ofJson_iff, and_comm, eq_comm]

theorem readsItems_required_iff {name : String} {decoder : Decoder α} {items surplus : List Json}
    {value : α} :
    (required name decoder).ReadsItems items value surplus ↔
      ∃ item, items = item :: surplus ∧ decoder.ofJson item = .ok value := by
  rw [required, readsItems_field_iff, or_iff_right]
  intro missing
  cases missing.2.2

/-- A field with a value of its own has that value, or one of the items says another. -/
theorem ReadsItems.defaulted {name : String} {decoder : Decoder α} {default : α}
    {items surplus : List Json} {value : α}
    (reads : (defaulted name decoder default).ReadsItems items value surplus) :
    surplus ⊆ items ∧ (default = value ∨ ∃ item ∈ items, decoder.ofJson item = .ok value) := by
  rcases readsItems_field_iff.1 reads with ⟨rfl, rfl, same⟩ | ⟨item, rfl, read⟩
  · exact ⟨List.Subset.refl [], .inl (Option.some.inj same)⟩
  · exact ⟨List.subset_cons_self item surplus, .inr ⟨item, List.mem_cons_self, read⟩⟩

theorem decoder_ofJson_array_iff {record : Record α} {name : String} {items : List Json}
    {value : α} :
    (record.decoder name).ofJson (.array items) = .ok value ↔ record.ReadsItems items value [] := by
  simp only [decoder, Results.bind_eq_ok_iff, ReadsItems]
  constructor
  · intro succeeds
    rcases succeeds with ⟨⟨draft, surplus⟩, taken, read, finished, ended⟩
    cases surplus with
    | nil =>
        cases ended
        exact ⟨draft, takeItems_eq_ok_iff.1 taken, finished⟩
    | cons item surplus => cases ended
  · intro described
    rcases described with ⟨draft, fills, finished⟩
    exact ⟨(draft, []), takeItems_eq_ok_iff.2 fills, value, finished, rfl⟩

end LanguageWorker.Record
