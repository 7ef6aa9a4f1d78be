import LanguageWorker.Decode.Record
import LanguageWorker.Proofs.Results
import Mathlib.Data.List.Nodup

namespace LanguageWorker.Record

/-! Records read from the members of an object. A record made of two others takes from
the members what each of them takes, as long as they share no name. -/

variable {α β : Type}

/-- The names of the fields. -/
def names (record : Record α) : List String := record.fields.map Field.name

/-- The value that the members of an object make. -/
def ofMembers (record : Record α) (members : List (String × Json)) : Except DecodeError α := do
  record.finish (← members.foldlM record.takeMember record.blank)

theorem field?_eq_none_iff {record : Record α} {name : String} :
    record.field? name = none ↔ name ∉ record.names := by
  simp [field?, names]

theorem mem_names_of_field? {record : Record α} {name : String} {field : Field record.Draft}
    (found : record.field? name = some field) : name ∈ record.names :=
  List.mem_map.2 ⟨field, List.mem_of_find?_eq_some found,
    eq_of_beq (List.find?_some found :)⟩

theorem takeMember_of_unknown {record : Record α} {draft : record.Draft} {member : String × Json}
    (unknown : member.1 ∉ record.names) : record.takeMember draft member = .ok draft := by
  rw [takeMember, field?_eq_none_iff.2 unknown]

/-- What a field makes of a draft, given a member of its name. -/
def takeInto {Draft : Type} (field : Field Draft) (draft : Draft) (member : String × Json) :
    Except DecodeError Draft :=
  if field.isFilled draft then .error (.duplicateField member.1)
  else (field.decoder.ofJson member.2).map (· draft)

theorem takeMember_of_found {record : Record α} {draft : record.Draft} {member : String × Json}
    {field : Field record.Draft} (found : record.field? member.1 = some field) :
    record.takeMember draft member = takeInto field draft member := by
  rw [takeMember, found, takeInto]

/-! The fields of a pair work on one part of its draft each. -/

/-- A part of a draft, and how it is replaced within it. -/
structure Part (Inner Draft : Type) where
  get : Draft → Inner
  put : Inner → Draft → Draft
  put_get : ∀ draft, put (get draft) draft = draft
  get_put : ∀ inner draft, get (put inner draft) = inner
  put_put : ∀ inner other draft, put inner (put other draft) = put inner draft

namespace Part

variable {Inner Draft : Type}

/-- Do something with the part alone. -/
def widen (part : Part Inner Draft) (fill : Inner → Inner) (draft : Draft) : Draft :=
  part.put (fill (part.get draft)) draft

/-- A field of the part as a field of the whole. -/
def lift (part : Part Inner Draft) (field : Field Inner) : Field Draft where
  name := field.name
  isFilled draft := field.isFilled (part.get draft)
  decoder := field.decoder.map part.widen
  standIn := field.standIn.map part.widen

theorem takeInto_lift (part : Part Inner Draft) (field : Field Inner) (draft : Draft)
    (member : String × Json) :
    takeInto (part.lift field) draft member =
      (takeInto field (part.get draft) member).map (part.put · draft) := by
  rw [takeInto, takeInto]
  by_cases filled : field.isFilled (part.get draft)
  · rw [if_pos filled]
    exact if_pos filled
  · rw [if_neg filled]
    refine (if_neg filled).trans ?_
    simp only [lift, Decoder.map]
    cases field.decoder.ofJson member.2 with
    | error cause => rfl
    | ok fill => rfl

end Part

/-- The draft of the first record in that of a pair. -/
def firstPart (first : Record α) (second : Record β) :
    Part first.Draft (first.and second).Draft where
  get := Prod.fst
  put inner draft := (inner, draft.2)
  put_get _ := rfl
  get_put _ _ := rfl
  put_put _ _ _ := rfl

def secondPart (first : Record α) (second : Record β) :
    Part second.Draft (first.and second).Draft where
  get := Prod.snd
  put inner draft := (draft.1, inner)
  put_get _ := rfl
  get_put _ _ := rfl
  put_put _ _ _ := rfl

theorem fields_and (first : Record α) (second : Record β) :
    (first.and second).fields =
      first.fields.map (firstPart first second).lift ++
        second.fields.map (secondPart first second).lift :=
  rfl

theorem names_and (first : Record α) (second : Record β) :
    (first.and second).names = first.names ++ second.names := by
  rw [names, fields_and, List.map_append, List.map_map, List.map_map]
  rfl

theorem disjoint_of_nodup_names {first : Record α} {second : Record β}
    (distinct : (first.and second).names.Nodup) : first.names.Disjoint second.names := by
  rw [names_and] at distinct
  exact List.disjoint_of_nodup_append distinct

theorem nodup_names_of_and {first : Record α} {second : Record β}
    (distinct : (first.and second).names.Nodup) : first.names.Nodup ∧ second.names.Nodup := by
  rw [names_and, List.nodup_append] at distinct
  exact ⟨distinct.1, distinct.2.1⟩

theorem field?_and (first : Record α) (second : Record β) (name : String) :
    (first.and second).field? name =
      ((first.field? name).map (firstPart first second).lift).or
        ((second.field? name).map (secondPart first second).lift) := by
  rw [field?, fields_and, List.find?_append, List.find?_map, List.find?_map]
  rfl

theorem takeMember_and_eq_ok_iff {first : Record α} {second : Record β}
    (disjoint : first.names.Disjoint second.names) {draft filled : (first.and second).Draft}
    {member : String × Json} :
    (first.and second).takeMember draft member = .ok filled ↔
      first.takeMember draft.1 member = .ok filled.1 ∧
        second.takeMember draft.2 member = .ok filled.2 := by
  have choice := field?_and first second member.1
  cases here : first.field? member.1 with
  | some field =>
      have elsewhere : member.1 ∉ second.names := disjoint (mem_names_of_field? here)
      rw [here] at choice
      rw [takeMember_of_unknown elsewhere, takeMember_of_found choice, takeMember_of_found here,
        Part.takeInto_lift, Results.map_eq_ok_iff]
      constructor
      · intro succeeds
        rcases succeeds with ⟨inner, taken, rfl⟩
        exact ⟨taken, rfl⟩
      · intro described
        exact ⟨filled.1, described.1, Prod.ext rfl (Except.ok.inj described.2)⟩
  | none =>
      rw [takeMember_of_unknown (field?_eq_none_iff.1 here)]
      cases there : second.field? member.1 with
      | some field =>
          rw [here, there] at choice
          rw [takeMember_of_found choice, takeMember_of_found there, Part.takeInto_lift,
            Results.map_eq_ok_iff]
          constructor
          · intro succeeds
            rcases succeeds with ⟨inner, taken, rfl⟩
            exact ⟨rfl, taken⟩
          · intro described
            exact ⟨filled.2, described.2, Prod.ext (Except.ok.inj described.1) rfl⟩
      | none =>
          rw [here, there] at choice
          rw [takeMember_of_unknown (field?_eq_none_iff.1 choice),
            takeMember_of_unknown (field?_eq_none_iff.1 there)]
          simp only [Except.ok.injEq]
          exact Prod.ext_iff

theorem foldlM_takeMember_and_eq_ok_iff {first : Record α} {second : Record β}
    (disjoint : first.names.Disjoint second.names) {members : List (String × Json)}
    {draft filled : (first.and second).Draft} :
    members.foldlM (first.and second).takeMember draft = .ok filled ↔
      members.foldlM first.takeMember draft.1 = .ok filled.1 ∧
        members.foldlM second.takeMember draft.2 = .ok filled.2 := by
  induction members generalizing draft with
  | nil => exact ⟨fun same => by cases same; exact ⟨rfl, rfl⟩,
      fun same => congrArg Except.ok (Prod.ext (Except.ok.inj same.1) (Except.ok.inj same.2))⟩
  | cons member rest induction =>
      simp only [List.foldlM_cons, Results.bind_eq_ok_iff, takeMember_and_eq_ok_iff disjoint,
        induction]
      constructor
      · intro succeeds
        rcases succeeds with ⟨between, taken, later⟩
        exact ⟨⟨between.1, taken.1, later.1⟩, between.2, taken.2, later.2⟩
      · intro described
        rcases described with ⟨⟨between, taken, later⟩, between', taken', later'⟩
        exact ⟨(between, between'), ⟨taken, taken'⟩, later, later'⟩

theorem finish_and_eq_ok_iff {first : Record α} {second : Record β}
    {draft : (first.and second).Draft} {value : α × β} :
    (first.and second).finish draft = .ok value ↔
      first.finish draft.1 = .ok value.1 ∧ second.finish draft.2 = .ok value.2 := by
  simp only [and, Results.bind_eq_ok_iff]
  constructor
  · intro finished
    rcases finished with ⟨read, here, read', later, equal⟩
    cases equal
    exact ⟨here, later⟩
  · intro described
    exact ⟨value.1, described.1, value.2, described.2, rfl⟩

theorem ofMembers_and_eq_ok_iff {first : Record α} {second : Record β}
    (disjoint : first.names.Disjoint second.names) {members : List (String × Json)}
    {value : α × β} :
    (first.and second).ofMembers members = .ok value ↔
      first.ofMembers members = .ok value.1 ∧ second.ofMembers members = .ok value.2 := by
  simp only [ofMembers, Results.bind_eq_ok_iff, finish_and_eq_ok_iff]
  constructor
  · intro succeeds
    rcases succeeds with ⟨draft, taken, finished, finished'⟩
    rcases (foldlM_takeMember_and_eq_ok_iff disjoint).1 taken with ⟨taken, taken'⟩
    exact ⟨⟨draft.1, taken, finished⟩, draft.2, taken', finished'⟩
  · intro described
    rcases described with ⟨⟨draft, taken, finished⟩, draft', taken', finished'⟩
    exact ⟨(draft, draft'), (foldlM_takeMember_and_eq_ok_iff disjoint).2 ⟨taken, taken'⟩,
      finished, finished'⟩

/-- The members make the value if no two fields share a name. -/
def Makes (record : Record α) (members : List (String × Json)) (value : α) : Prop :=
  record.names.Nodup → record.ofMembers members = .ok value

theorem Makes.and {first : Record α} {second : Record β} {members : List (String × Json)}
    {here : α} {later : β} (makes : first.Makes members here)
    (makesLater : second.Makes members later) :
    (first.and second).Makes members (here, later) := by
  intro distinct
  have apart := nodup_names_of_and distinct
  apply (ofMembers_and_eq_ok_iff (disjoint_of_nodup_names distinct)).2
  exact ⟨makes apart.1, makesLater apart.2⟩

theorem takeMember_map (record : Record α) (transform : α → β) :
    (record.map transform).takeMember = record.takeMember := by
  funext draft member
  have same : (record.map transform).field? member.1 = record.field? member.1 := rfl
  simp only [takeMember, same]
  cases record.field? member.1 with
  | none => rfl
  | some field => rfl

theorem ofMembers_map_eq_ok_iff {record : Record α} {transform : α → β}
    {members : List (String × Json)} {value : β} :
    (record.map transform).ofMembers members = .ok value ↔
      ∃ read, record.ofMembers members = .ok read ∧ transform read = value := by
  simp only [ofMembers, Results.bind_eq_ok_iff, takeMember_map]
  constructor
  · intro succeeds
    rcases succeeds with ⟨draft, taken, finished⟩
    rcases Results.map_eq_ok_iff.1 finished with ⟨read, finished, equal⟩
    exact ⟨read, ⟨draft, taken, finished⟩, equal⟩
  · intro described
    rcases described with ⟨read, ⟨draft, taken, finished⟩, equal⟩
    exact ⟨draft, taken, Results.map_eq_ok_iff.2 ⟨read, finished, equal⟩⟩

theorem Makes.map {record : Record α} {members : List (String × Json)} {value : α}
    (makes : record.Makes members value) (transform : α → β) :
    (record.map transform).Makes members (transform value) :=
  fun distinct => ofMembers_map_eq_ok_iff.2 ⟨value, makes distinct, rfl⟩

/-- Members of a name that is no field are passed over. -/
theorem ofMembers_without {record : Record α} {name : String} (unknown : name ∉ record.names)
    (members : List (String × Json)) :
    record.ofMembers (members.filter (·.1 ≠ name)) = record.ofMembers members := by
  have passed (draft : record.Draft) :
      (members.filter (·.1 ≠ name)).foldlM record.takeMember draft =
        members.foldlM record.takeMember draft := by
    induction members generalizing draft with
    | nil => rfl
    | cons member rest induction =>
        by_cases same : member.1 = name
        · have dropped : takeMember record draft member = .ok draft :=
            takeMember_of_unknown (same ▸ unknown)
          rw [List.filter_cons_of_neg (by simp [same]), List.foldlM_cons, dropped]
          exact induction draft
        · rw [List.filter_cons_of_pos (by simp [same]), List.foldlM_cons, List.foldlM_cons]
          simp only [induction]
  rw [ofMembers, ofMembers, passed]

/-! A single field looks at the members of its name alone. -/

/-- The values of the members of a name, in their order. -/
def valuesOf (name : String) (members : List (String × Json)) : List Json :=
  (members.filter fun member => member.1 == name).map Prod.snd

theorem valuesOf_cons_same {name : String} (item : Json) (rest : List (String × Json)) :
    valuesOf name ((name, item) :: rest) = item :: valuesOf name rest := by
  simp [valuesOf]

theorem valuesOf_cons_other {name : String} {member : String × Json} (other : member.1 ≠ name)
    (rest : List (String × Json)) : valuesOf name (member :: rest) = valuesOf name rest := by
  simp [valuesOf, other]

/-- What a single field makes of a member. -/
def takeField (name : String) (decoder : Decoder α) (draft : Option α) (member : String × Json) :
    Except DecodeError (Option α) :=
  if member.1 = name then
    if draft.isSome then .error (.duplicateField name) else (decoder.ofJson member.2).map some
  else .ok draft

section SingleField

variable {name : String} {decoder : Decoder α} {members : List (String × Json)}

/-- A field that has been filled must not come again. -/
theorem foldlM_takeField_some {value : α} {filled : Option α} :
    members.foldlM (takeField name decoder) (some value) = .ok filled ↔
      valuesOf name members = [] ∧ some value = filled := by
  induction members with
  | nil => exact ⟨fun same => ⟨rfl, Except.ok.inj same⟩, fun same => congrArg Except.ok same.2⟩
  | cons member rest induction =>
      rcases member with ⟨key, item⟩
      rw [List.foldlM_cons, Results.bind_eq_ok_iff]
      by_cases same : key = name
      · subst same
        rw [valuesOf_cons_same]
        simp [takeField]
      · rw [valuesOf_cons_other same, ← induction]
        simp [takeField, same]

theorem foldlM_takeField_none {filled : Option α} :
    members.foldlM (takeField name decoder) none = .ok filled ↔
      (valuesOf name members = [] ∧ none = filled) ∨
        ∃ item value, valuesOf name members = [item] ∧ decoder.ofJson item = .ok value ∧
          some value = filled := by
  induction members with
  | nil =>
      refine ⟨fun same => .inl ⟨rfl, Except.ok.inj same⟩, ?_⟩
      intro described
      rcases described with ⟨_, equal⟩ | ⟨_, _, impossible, _⟩
      · exact congrArg Except.ok equal
      · cases impossible
  | cons member rest induction =>
      rcases member with ⟨key, item⟩
      rw [List.foldlM_cons, Results.bind_eq_ok_iff]
      by_cases same : key = name
      · subst same
        have step (draft : Option α) : takeField key decoder none (key, item) = .ok draft ↔
            ∃ value, decoder.ofJson item = .ok value ∧ some value = draft := by
          rw [takeField, if_pos rfl, if_neg (by simp), Results.map_eq_ok_iff]
        simp only [valuesOf_cons_same, step]
        constructor
        · intro succeeds
          rcases succeeds with ⟨_, ⟨value, read, rfl⟩, later⟩
          rcases foldlM_takeField_some.1 later with ⟨alone, equal⟩
          exact .inr ⟨item, value, congrArg (item :: ·) alone, read, equal⟩
        · intro described
          rcases described with ⟨impossible, _⟩ | ⟨_, value, single, read, equal⟩
          · cases impossible
          · rcases List.cons.inj single with ⟨rfl, alone⟩
            exact ⟨some value, ⟨value, read, rfl⟩, foldlM_takeField_some.2 ⟨alone, equal⟩⟩
      · rw [valuesOf_cons_other same, ← induction]
        simp [takeField, same]

variable {absent : Except DecodeError α} {standIn : Option α}

theorem takeMember_field (draft : Option α) (member : String × Json) :
    (field name decoder absent standIn).takeMember draft member =
      takeField name decoder draft member := by
  rw [takeField]
  split
  · next same =>
      have found : (field name decoder absent standIn).field? member.1 = some {
          name
          isFilled := Option.isSome
          decoder := decoder.map fun value _ => some value
          standIn := standIn.map fun value _ => some value } :=
        List.find?_cons_of_pos (beq_iff_eq.2 same.symm)
      have filled : ((decoder.map fun value (_ : Option α) => some value).ofJson member.2).map
          (· draft) = (decoder.ofJson member.2).map some := by
        simp only [Decoder.map]
        cases decoder.ofJson member.2 with
        | error cause => rfl
        | ok value => rfl
      apply (takeMember_of_found found).trans
      unfold takeInto
      rw [same]
      exact congrArg (fun taken => if draft.isSome then _ else taken) filled
  · next other => exact takeMember_of_unknown fun listed => other (List.mem_singleton.1 listed)

theorem names_field : (field name decoder absent standIn).names = [name] := rfl

theorem ofMembers_field_eq_ok_iff {value : α} :
    (field name decoder absent standIn).ofMembers members = .ok value ↔
      (valuesOf name members = [] ∧ absent = .ok value) ∨
        ∃ item, valuesOf name members = [item] ∧ decoder.ofJson item = .ok value := by
  have steps : (field name decoder absent standIn).takeMember = takeField name decoder :=
    funext fun draft => funext (takeMember_field draft)
  rw [ofMembers, steps, Results.bind_eq_ok_iff]
  constructor
  · intro succeeds
    rcases succeeds with ⟨draft, taken, finished⟩
    rcases foldlM_takeField_none.1 taken with ⟨missing, rfl⟩ | ⟨item, read, single, reads, rfl⟩
    · exact .inl ⟨missing, finished⟩
    · exact .inr ⟨item, single, reads.trans finished⟩
  · intro described
    rcases described with ⟨missing, settled⟩ | ⟨item, single, reads⟩
    · exact ⟨none, foldlM_takeField_none.2 (.inl ⟨missing, rfl⟩), settled⟩
    · exact ⟨some value, foldlM_takeField_none.2 (.inr ⟨item, value, single, reads, rfl⟩), rfl⟩

end SingleField

theorem ofMembers_required_eq_ok_iff {name : String} {decoder : Decoder α}
    {members : List (String × Json)} {value : α} :
    (required name decoder).ofMembers members = .ok value ↔
      ∃ item, valuesOf name members = [item] ∧ decoder.ofJson item = .ok value := by
  rw [required, ofMembers_field_eq_ok_iff, or_iff_right]
  exact fun missing => nomatch missing.2

end LanguageWorker.Record
