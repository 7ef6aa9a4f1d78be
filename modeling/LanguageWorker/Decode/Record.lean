import LanguageWorker.Decode.Decoder

namespace LanguageWorker

/-! Records with fixed fields. A record is read from an object, in which unknown
members are passed over and a known one must not come twice, or from an array
of its fields in their order. What has been read so far is kept in a draft; a
record is built from its fields by pairing. -/

/-- One field of a record. `standIn` fills the draft for a field that an array is
too short to hold. -/
structure Field (Draft : Type) where
  name : String
  isFilled : Draft → Bool
  decoder : Decoder (Draft → Draft)
  standIn : Option (Draft → Draft)

/-- The fields of an `α`, with drafts of it. -/
structure Record (α : Type) where
  Draft : Type
  blank : Draft
  fields : List (Field Draft)
  finish : Draft → Except DecodeError α

namespace Record

variable {α β : Type}

/-- A field whose absence from an object is settled by `absent`, and from an
array by `standIn`. -/
def field (name : String) (decoder : Decoder α) (absent : Except DecodeError α)
    (standIn : Option α) : Record α where
  Draft := Option α
  blank := none
  fields := [{
    name
    isFilled := Option.isSome
    decoder := decoder.map fun value _ => some value
    standIn := standIn.map fun value _ => some value }]
  finish
    | some value => .ok value
    | none => absent

/-- A field that has to be there. -/
def required (name : String) (decoder : Decoder α) : Record α :=
  field name decoder (.error (.missingField name)) none

/-- A field that an object may leave out, or hold null in place of. -/
def nullable (name : String) (decoder : Decoder α) : Record (Option α) :=
  field name decoder.option (.ok none) none

/-- A field that has a value of its own where it is left out. -/
def defaulted (name : String) (decoder : Decoder α) (default : α) : Record α :=
  field name decoder (.ok default) (some default)

/-- A field that may be left out anywhere. -/
def optional (name : String) (decoder : Decoder α) : Record (Option α) :=
  defaulted name decoder.option none

/-- The fields of one record followed by those of another. -/
def and (first : Record α) (second : Record β) : Record (α × β) where
  Draft := first.Draft × second.Draft
  blank := (first.blank, second.blank)
  fields :=
    (first.fields.map fun field => {
      name := field.name
      isFilled := fun draft => field.isFilled draft.1
      decoder := field.decoder.map fun fill draft => (fill draft.1, draft.2)
      standIn := field.standIn.map fun fill draft => (fill draft.1, draft.2) }) ++
    (second.fields.map fun field => {
      name := field.name
      isFilled := fun draft => field.isFilled draft.2
      decoder := field.decoder.map fun fill draft => (draft.1, fill draft.2)
      standIn := field.standIn.map fun fill draft => (draft.1, fill draft.2) })
  finish draft := do return (← first.finish draft.1, ← second.finish draft.2)

def map (transform : α → β) (record : Record α) : Record β where
  Draft := record.Draft
  blank := record.blank
  fields := record.fields
  finish draft := (record.finish draft).map transform

/-- The field of a name. -/
def field? (record : Record α) (name : String) : Option (Field record.Draft) :=
  record.fields.find? fun field => field.name == name

/-- Take a member of a JSON object into the draft. -/
def takeMember (record : Record α) (draft : record.Draft) (member : String × Json) :
    Except DecodeError record.Draft :=
  match record.field? member.1 with
  | none => .ok draft
  | some field =>
      if field.isFilled draft then .error (.duplicateField member.1)
      else (field.decoder.ofJson member.2).map (· draft)

/-- Read a member of an object in a text into the draft. -/
def readMember (record : Record α) (nesting : Nat) (draft : record.Draft) (name : String) :
    Json.Reader record.Draft :=
  match record.field? name with
  | none => do
      Json.Reader.colon
      Json.Reader.skip
      return draft
  | some field =>
      if field.isFilled draft then throw (.duplicateField name)
      else do
        Json.Reader.colon
        let fill ← field.decoder.ofText nesting
        return fill draft

/-- Take a member of a TOML table into the draft. -/
def takeTomlMember (record : Record α) (draft : record.Draft) (member : String × Toml) :
    Except DecodeError record.Draft :=
  match record.field? member.1 with
  | none => do
      member.2.skip
      return draft
  | some field => (field.decoder.ofToml member.2).map (· draft)

/-- What the complaint about a short array expects. -/
def arrayForm (name : String) (record : Record α) : String :=
  "struct " ++ name ++ " with " ++ toString record.fields.length ++
    (if record.fields.length = 1 then " element" else " elements")

/-- Fill fields from the items of an array; gives back the items left over. -/
def takeItems {Item Draft : Type}
    (decode : Field Draft → Item → Except DecodeError (Draft → Draft))
    (tooShort : Nat → DecodeError) :
    (index : Nat) → List (Field Draft) → List Item → Draft →
      Except DecodeError (Draft × List Item)
  | _, [], items, draft => .ok (draft, items)
  | index, field :: fields, [], draft =>
      match field.standIn with
      | some fill => takeItems decode tooShort (index + 1) fields [] (fill draft)
      | none => .error (tooShort index)
  | index, field :: fields, item :: items, draft => do
      let fill ← decode field item
      takeItems decode tooShort (index + 1) fields items (fill draft)

/-- Read fields from the items of an array in a text. -/
def readItems {Draft : Type} (nesting : Nat) (tooShort : Nat → DecodeError) :
    (index : Nat) → List (Field Draft) → Draft → Json.Reader Draft
  | _, [], draft => return draft
  | index, field :: fields, draft => do
      if ← Json.Reader.hasItem (index = 0) then
        let fill ← field.decoder.ofText nesting
        readItems nesting tooShort (index + 1) fields (fill draft)
      else
        match field.standIn with
        | some fill => readItems nesting tooShort (index + 1) fields (fill draft)
        | none => throw (tooShort index)

/-- Pass the end of an array from which all fields have been read. -/
def closeArray : Json.Reader Unit := do
  match ← Json.Reader.peek? with
  | none => Json.Reader.fail .endInList
  | some ']' => Json.Reader.advance
  | some ',' =>
      Json.Reader.advance
      match ← Json.Reader.peek? with
      | some ']' => Json.Reader.fail .trailingComma
      | _ => Json.Reader.fail .trailingCharacters
  | some _ => Json.Reader.fail .trailingCharacters

/-- The decoder of a record. Of a TOML array, items that are left over are not
looked at. -/
def decoder (name : String) (record : Record α) : Decoder α where
  ofJson
    | .object members => do
        record.finish (← members.foldlM record.takeMember record.blank)
    | .array items => do
        let (draft, surplus) ← takeItems (fun field => field.decoder.ofJson)
          (.invalidLength · (record.arrayForm name)) 0 record.fields items record.blank
        let value ← record.finish draft
        if surplus.isEmpty then return value
        else throw (.invalidLength items.length "fewer elements in array")
    | value => Decoder.mismatch value ("struct " ++ name)
  ofText nesting := do
    match ← Json.Reader.head with
    | .object _ => Decoder.opened nesting fun nesting => do
        let draft ← Json.Reader.object (record.readMember nesting) record.blank
        Decoder.lift (record.finish draft)
    | .array _ => Decoder.opened nesting fun nesting => do
        Json.Reader.advance
        let draft ← readItems nesting (.invalidLength · (record.arrayForm name)) 0
          record.fields record.blank
        let value ← Decoder.lift (record.finish draft)
        closeArray
        return value
    | value => Decoder.lift (Decoder.mismatch value ("struct " ++ name))
  ofToml
    | .table members => do
        record.finish (← members.foldlM record.takeTomlMember record.blank)
    | .array items => do
        let (draft, _) ← takeItems (fun field => field.decoder.ofToml)
          (.invalidLength · (record.arrayForm name)) 0 record.fields items record.blank
        record.finish draft
    | value => Decoder.tomlMismatch value ("struct " ++ name)

/-! Open records keep the members they do not know. They are read from objects
only. -/

/-- Take a member of a JSON object into the draft or among the others. -/
def keepMember (record : Record α) (draft : record.Draft × List (String × Json))
    (member : String × Json) : Except DecodeError (record.Draft × List (String × Json)) :=
  match record.field? member.1 with
  | none => .ok (draft.1, draft.2 ++ [member])
  | some _ => (record.takeMember draft.1 member).map fun known => (known, draft.2)

/-- Read a member of an object in a text into the draft or among the others. -/
def readKeptMember (record : Record α) (nesting : Nat)
    (draft : record.Draft × List (String × Json)) (name : String) :
    Json.Reader (record.Draft × List (String × Json)) :=
  match record.field? name with
  | none => do
      Json.Reader.colon
      let value ← Json.Reader.value nesting
      return (draft.1, draft.2 ++ [(name, value)])
  | some _ => do
      let known ← record.readMember nesting draft.1 name
      return (known, draft.2)

/-- Take a member of a TOML table into the draft or among the others. -/
def keepTomlMember (record : Record α) (draft : record.Draft × List (String × Json))
    (member : String × Toml) : Except DecodeError (record.Draft × List (String × Json)) :=
  match record.field? member.1 with
  | none => do return (draft.1, draft.2 ++ [(member.1, ← member.2.toJson)])
  | some _ => (record.takeTomlMember draft.1 member).map fun known => (known, draft.2)

/-- The decoder of an open record: its fields, and the members left over. -/
def openDecoder (name : String) (record : Record α) : Decoder (α × Json.Object) :=
  let finish (draft : record.Draft × List (String × Json)) :
      Except DecodeError (α × Json.Object) :=
    (record.finish draft.1).map fun value => (value, Json.Object.ofMembers draft.2)
  { ofJson := fun
      | .object members => do finish (← members.foldlM record.keepMember (record.blank, []))
      | value => Decoder.mismatch value ("struct " ++ name)
    ofText := fun nesting => do
      match ← Json.Reader.head with
      | .object _ => Decoder.opened nesting fun nesting => do
          Decoder.lift (finish
            (← Json.Reader.object (record.readKeptMember nesting) (record.blank, [])))
      | value => Decoder.lift (Decoder.mismatch value ("struct " ++ name))
    ofToml := fun
      | .table members => do
          finish (← members.foldlM record.keepTomlMember (record.blank, []))
      | value => Decoder.tomlMismatch value ("struct " ++ name) }

end Record

end LanguageWorker
