import LanguageWorker.Proofs.Documents.Run
import Mathlib.Data.List.Induction

namespace LanguageWorker.Store

/-! What a run of operations says about the open documents, read off the run itself.
Position, text and version of a document go back to different operations: the
opening that last took its URI from closed to open, the last operation that wrote a
text, and the last opening with the updates since. `Follows` says that a store shows
just this, and the main statement is that the store of every run does. -/

/-! ## Histories -/

def Operation.Opens (operation : Operation) (uri : String) : Prop :=
  ∃ text version, operation = .openDocument uri text version

/-- An opening of a URI that no other opening of it follows. -/
structure LastOpening (history : List Operation) (uri : String) (before : List Operation)
    (text : String) (version : Int32) (since : List Operation) : Prop where
  split : history = before ++ .openDocument uri text version :: since
  last : ∀ later ∈ since, ¬ later.Opens uri

/-- The last opening of a URI is not followed by a closing. -/
def IsOpen (history : List Operation) (uri : String) : Prop :=
  ∃ before text version since,
    LastOpening history uri before text version since ∧ .closeDocument uri ∉ since

/-- The opening at a position took a URI from closed to open. -/
def OpenedAt (history : List Operation) (uri : String) (position : Nat) : Prop :=
  ∃ before opening since, history = before ++ opening :: since ∧ opening.Opens uri ∧
    ¬ IsOpen before uri ∧ position = before.length

/-- The opening at a position was the last to take a URI from closed to open. -/
def OpenSince (history : List Operation) (uri : String) (position : Nat) : Prop :=
  OpenedAt history uri position ∧ ∀ other, OpenedAt history uri other → other ≤ position

/-- An opening or an update of a URI, with the text that it gives. -/
def Operation.Writes (operation : Operation) (uri text : String) : Prop :=
  operation = .updateDocument uri text ∨ ∃ version, operation = .openDocument uri text version

/-- The last opening or update of a URI gives a text. -/
def HasText (history : List Operation) (uri text : String) : Prop :=
  ∃ before operation since, history = before ++ operation :: since ∧
    operation.Writes uri text ∧ ∀ later ∈ since, ∀ other, ¬ later.Writes uri other

def Operation.updates (uri : String) : Operation → Bool
  | .updateDocument other _ => other == uri
  | _ => false

/-- The version of the last opening of a URI, counted up by the updates since. -/
def HasVersion (history : List Operation) (uri : String) (version : Int) : Prop :=
  ∃ before text opened since, LastOpening history uri before text opened since ∧
    version = opened.toInt + since.countP (Operation.updates uri)

/-- What the operations before it make an operation come back with. -/
def Dictates (history : List Operation) (operation : Operation) (outcome : Outcome) : Prop :=
  match operation with
  | .openDocument _ _ _ => outcome = .opened
  | .updateDocument uri _ =>
      (¬ IsOpen history uri ∧ outcome = .updated .notOpen) ∨
      (IsOpen history uri ∧ ∃ version : Int32, outcome = .updated (.updated version) ∧
        HasVersion (history ++ [operation]) uri version.toInt)
  | .closeDocument uri =>
      ∃ wasOpen, outcome = .closed wasOpen ∧ (wasOpen = true ↔ IsOpen history uri)

/-! ## One more operation -/

variable {history : List Operation} {operation : Operation} {uri : String}

theorem concat_eq_append_cons {before since : List Operation} {middle : Operation} :
    history ++ [operation] = before ++ middle :: since ↔
      (history = before ∧ operation = middle ∧ since = []) ∨
      ∃ rest, since = rest ++ [operation] ∧ history = before ++ middle :: rest := by
  constructor
  · intro equal
    rcases List.eq_nil_or_concat since with rfl | ⟨rest, last, rfl⟩
    · rcases List.append_inj' equal rfl with ⟨same, single⟩
      exact .inl ⟨same, List.singleton_inj.1 single, rfl⟩
    · rw [List.concat_eq_append, ← List.cons_append, ← List.append_assoc] at equal
      rcases List.append_inj' equal rfl with ⟨same, single⟩
      refine .inr ⟨rest, ?_, same⟩
      rw [List.concat_eq_append, List.singleton_inj.1 single]
  · intro ends
    rcases ends with ⟨rfl, rfl, rfl⟩ | ⟨rest, rfl, rfl⟩
    · rfl
    · simp

theorem LastOpening.concat {before since : List Operation} {text : String} {version : Int32}
    (opening : LastOpening history uri before text version since)
    (other : ¬ operation.Opens uri) :
    LastOpening (history ++ [operation]) uri before text version (since ++ [operation]) where
  split := by simp [opening.split]
  last later member := by
    rcases List.mem_append.1 member with earlier | here
    · exact opening.last later earlier
    · exact List.mem_singleton.1 here ▸ other

theorem LastOpening.here (history : List Operation) (uri text : String) (version : Int32) :
    LastOpening (history ++ [.openDocument uri text version]) uri history text version [] where
  split := rfl
  last := by simp

theorem isOpen_concat :
    IsOpen (history ++ [operation]) uri ↔
      operation.Opens uri ∨ (IsOpen history uri ∧ operation ≠ .closeDocument uri) := by
  constructor
  · intro isOpen
    rcases isOpen with ⟨before, _, _, since, opening, notClosed⟩
    rcases concat_eq_append_cons.1 opening.split with ⟨_, same, _⟩ | ⟨rest, rfl, same⟩
    · exact .inl ⟨_, _, same⟩
    · refine .inr ⟨⟨before, _, _, rest, ⟨same, ?_⟩, ?_⟩, ?_⟩
      · exact fun later member => opening.last later (List.mem_append_left _ member)
      · exact fun member => notClosed (List.mem_append_left _ member)
      · intro closing
        exact notClosed (List.mem_append_right _ (closing ▸ List.mem_singleton_self _))
  · intro openings
    by_cases opens : operation.Opens uri
    · rcases opens with ⟨text, version, rfl⟩
      exact ⟨history, text, version, [], .here history uri text version, List.not_mem_nil⟩
    · rcases openings.resolve_left opens with
        ⟨⟨before, text, version, since, opening, notClosed⟩, notClosing⟩
      refine ⟨before, text, version, _, opening.concat opens, ?_⟩
      simp only [List.mem_append, List.mem_singleton, not_or]
      exact ⟨notClosed, notClosing.symm⟩

theorem openedAt_concat {position : Nat} :
    OpenedAt (history ++ [operation]) uri position ↔
      OpenedAt history uri position ∨
        (operation.Opens uri ∧ ¬ IsOpen history uri ∧ position = history.length) := by
  constructor
  · intro opened
    rcases opened with ⟨before, opening, since, split, opens, closed, rfl⟩
    rcases concat_eq_append_cons.1 split with ⟨rfl, rfl, _⟩ | ⟨rest, rfl, same⟩
    · exact .inr ⟨opens, closed, rfl⟩
    · exact .inl ⟨before, opening, rest, same, opens, closed, rfl⟩
  · intro opened
    rcases opened with ⟨before, opening, since, rfl, opens, closed, rfl⟩ | ⟨opens, closed, rfl⟩
    · exact ⟨before, opening, since ++ [operation], by simp, opens, closed, rfl⟩
    · exact ⟨history, operation, [], rfl, opens, closed, rfl⟩

theorem OpenedAt.lt_length {position : Nat} (opened : OpenedAt history uri position) :
    position < history.length := by
  rcases opened with ⟨before, _, since, rfl, _, _, rfl⟩
  simp

/-- Only an opening of a closed URI gives it another place. -/
theorem openSince_concat {position : Nat}
    (stays : operation.Opens uri → IsOpen history uri) :
    OpenSince (history ++ [operation]) uri position ↔ OpenSince history uri position := by
  have same : ∀ other, OpenedAt (history ++ [operation]) uri other ↔
      OpenedAt history uri other := by
    intro other
    rw [openedAt_concat]
    exact or_iff_left fun ⟨opens, closed, _⟩ => closed (stays opens)
  simp only [OpenSince, same]

theorem openSince_here (opens : operation.Opens uri) (closed : ¬ IsOpen history uri) :
    OpenSince (history ++ [operation]) uri history.length := by
  refine ⟨openedAt_concat.2 (.inr ⟨opens, closed, rfl⟩), ?_⟩
  intro other opened
  rcases openedAt_concat.1 opened with earlier | ⟨_, _, here⟩
  · exact Nat.le_of_lt earlier.lt_length
  · exact Nat.le_of_eq here

theorem hasText_here {text : String} (writes : operation.Writes uri text) :
    HasText (history ++ [operation]) uri text :=
  ⟨history, operation, [], rfl, writes, by simp⟩

theorem HasText.concat {text : String} (kept : HasText history uri text)
    (silent : ∀ other, ¬ operation.Writes uri other) :
    HasText (history ++ [operation]) uri text := by
  rcases kept with ⟨before, writing, since, rfl, writes, last⟩
  refine ⟨before, writing, since ++ [operation], by simp, writes, ?_⟩
  intro later member
  rcases List.mem_append.1 member with earlier | here
  · exact last later earlier
  · exact List.mem_singleton.1 here ▸ silent

theorem hasVersion_here (history : List Operation) (uri text : String) (version : Int32) :
    HasVersion (history ++ [.openDocument uri text version]) uri version.toInt :=
  ⟨history, text, version, [], .here history uri text version, by simp⟩

theorem HasVersion.concat {version : Int} (kept : HasVersion history uri version)
    (operation : Operation) (other : ¬ operation.Opens uri) :
    HasVersion (history ++ [operation]) uri
      (version + if operation.updates uri then 1 else 0) := by
  rcases kept with ⟨before, text, opened, since, opening, rfl⟩
  refine ⟨before, text, opened, _, opening.concat other, ?_⟩
  rw [List.countP_append, List.countP_singleton]
  split <;> simp [Int.add_assoc]

/-! ## Stores and their histories -/

/-- A store shows what a history says. -/
structure Follows (history : List Operation) (store : Store) : Prop where
  listed_iff : ∀ uri, uri ∈ store.listing.keys ↔ IsOpen history uri
  placed : ∀ uri ∈ store.listing.keys, ∃ position, OpenSince history uri position
  ordered : store.listing.keys.Pairwise fun first second =>
    ∀ early late, OpenSince history first early → OpenSince history second late → early < late
  text : ∀ uri document, store.get? uri = some document → HasText history uri document.text
  version : ∀ uri document, store.get? uri = some document →
    HasVersion history uri document.version.toInt

theorem not_isOpen_nil (uri : String) : ¬ IsOpen [] uri := by
  intro isOpen
  rcases isOpen with ⟨before, _, _, since, opening, _⟩
  simpa using opening.split

theorem follows_empty : Follows [] empty where
  listed_iff uri := by simp [not_isOpen_nil]
  placed := by simp
  ordered := List.Pairwise.nil
  text := by simp
  version := by simp

@[simp] theorem opens_openDocument_iff {opened text : String} {version : Int32} :
    (Operation.openDocument opened text version).Opens uri ↔ opened = uri := by
  simp [Operation.Opens]

@[simp] theorem not_opens_updateDocument {updated text : String} :
    ¬ (Operation.updateDocument updated text).Opens uri := by
  simp [Operation.Opens]

@[simp] theorem not_opens_closeDocument {closed : String} :
    ¬ (Operation.closeDocument closed).Opens uri := by
  simp [Operation.Opens]

namespace Follows

variable {store : Store} (follows : Follows history store)

include follows

/-- What is listed keeps its place under every operation. -/
theorem openSince_iff (operation : Operation) (listed : uri ∈ store.listing.keys)
    {position : Nat} :
    OpenSince (history ++ [operation]) uri position ↔ OpenSince history uri position :=
  openSince_concat fun _ => (follows.listed_iff uri).1 listed

theorem ordered_concat (operation : Operation) :
    store.listing.keys.Pairwise fun first second => ∀ early late,
      OpenSince (history ++ [operation]) first early →
      OpenSince (history ++ [operation]) second late → early < late := by
  apply follows.ordered.imp_of_mem
  intro first second firstListed secondListed before early late
  rw [follows.openSince_iff operation firstListed,
    follows.openSince_iff operation secondListed]
  exact before early late

theorem openDocument (opened text : String) (version : Int32) :
    Follows (history ++ [.openDocument opened text version])
      (store.openDocument opened text version) where
  listed_iff uri := by
    rw [keys_openDocument, isOpen_concat, ← follows.listed_iff]
    split
    · next listed =>
        simp only [opens_openDocument_iff]
        refine ⟨fun member => .inr ⟨member, by simp⟩, ?_⟩
        intro isOpen
        rcases isOpen with rfl | ⟨member, _⟩
        · exact listed
        · exact member
    · next absent => simp [or_comm, eq_comm]
  placed uri listed := by
    by_cases place : uri ∈ store.listing.keys
    · rcases follows.placed uri place with ⟨position, since⟩
      exact ⟨position, (follows.openSince_iff _ place).2 since⟩
    · have same : opened = uri := by
        rw [keys_openDocument] at listed
        split at listed
        · exact absurd listed place
        · simpa [place, eq_comm] using listed
      have closed : ¬ IsOpen history uri := fun isOpen => place ((follows.listed_iff uri).2 isOpen)
      exact ⟨history.length, openSince_here (opens_openDocument_iff.2 same) closed⟩
  ordered := by
    rw [keys_openDocument]
    split
    · exact follows.ordered_concat _
    · next absent =>
        have closed : ¬ IsOpen history opened := fun isOpen =>
          absent ((follows.listed_iff opened).2 isOpen)
        apply List.pairwise_append.2
        refine ⟨follows.ordered_concat _, List.pairwise_singleton _ _, ?_⟩
        intro first listed second single early late firstSince secondSince
        cases List.mem_singleton.1 single
        have earlier : early < history.length :=
          ((follows.openSince_iff _ listed).1 firstSince).1.lt_length
        have here : history.length ≤ late :=
          secondSince.2 _ (openSince_here (opens_openDocument_iff.2 rfl) closed).1
        omega
  text uri document found := by
    rw [get?_openDocument] at found
    split at found
    · next same =>
        cases found
        exact same ▸ hasText_here (.inr ⟨version, rfl⟩)
    · next different =>
        apply (follows.text uri document found).concat
        intro other writes
        rcases writes with impossible | ⟨_, equal⟩
        · cases impossible
        · cases equal
          exact different rfl
  version uri document found := by
    rw [get?_openDocument] at found
    split at found
    · next same =>
        cases found
        exact same ▸ hasVersion_here history opened text version
    · next different =>
        have kept := (follows.version uri document found).concat
          (.openDocument opened text version) (by simp [Ne.symm different])
        simpa [Operation.updates] using kept

theorem updateDocument (updated text : String)
    (unexhausted : ¬ store.Exhausts (.updateDocument updated text)) :
    Follows (history ++ [.updateDocument updated text])
      (store.updateDocument updated text).1 where
  listed_iff uri := by
    rw [listing_updateDocument, follows.listed_iff, isOpen_concat]
    simp
  placed uri listed := by
    rw [listing_updateDocument] at listed
    rcases follows.placed uri listed with ⟨position, since⟩
    exact ⟨position, (follows.openSince_iff _ listed).2 since⟩
  ordered := by
    rw [listing_updateDocument]
    exact follows.ordered_concat _
  text uri document found := by
    rw [get?_updateDocument] at found
    split at found
    · next same =>
        rcases Option.map_eq_some_iff.1 found with ⟨before, _, rfl⟩
        exact same ▸ hasText_here (.inl rfl)
    · next different =>
        apply (follows.text uri document found).concat
        intro other writes
        rcases writes with equal | ⟨_, impossible⟩
        · cases equal
          exact different rfl
        · cases impossible
  version uri document found := by
    rw [get?_updateDocument] at found
    split at found
    · next same =>
        subst same
        rcases Option.map_eq_some_iff.1 found with ⟨before, shown, rfl⟩
        have notLast : before.version ≠ Int32.maxValue := fun last =>
          unexhausted (by simp [Exhausts, shown, last])
        have counted := (follows.version uri before shown).concat
          (.updateDocument uri text) not_opens_updateDocument
        rw [Document.toInt_version_updated notLast]
        simpa [Operation.updates] using counted
    · next different =>
        have kept := (follows.version uri document found).concat
          (.updateDocument updated text) not_opens_updateDocument
        simpa [Operation.updates, Ne.symm different] using kept

theorem closeDocument (closed : String) :
    Follows (history ++ [.closeDocument closed]) (store.closeDocument closed).1 where
  listed_iff uri := by
    rw [keys_closeDocument, List.mem_filter, follows.listed_iff, isOpen_concat]
    by_cases same : uri = closed
    · simp [same]
    · simp [same, Ne.symm same]
  placed uri listed := by
    rw [keys_closeDocument] at listed
    have before := (List.mem_filter.1 listed).1
    rcases follows.placed uri before with ⟨position, since⟩
    exact ⟨position, (follows.openSince_iff _ before).2 since⟩
  ordered := by
    rw [keys_closeDocument]
    exact (follows.ordered_concat _).filter _
  text uri document found := by
    rw [get?_closeDocument] at found
    split at found
    · cases found
    · apply (follows.text uri document found).concat
      intro other writes
      rcases writes with impossible | ⟨_, impossible⟩
      · cases impossible
      · cases impossible
  version uri document found := by
    rw [get?_closeDocument] at found
    split at found
    · cases found
    · have kept := (follows.version uri document found).concat
        (.closeDocument closed) not_opens_closeDocument
      simpa [Operation.updates] using kept

/-- One operation keeps a store and its history together. -/
theorem perform (operation : Operation) (unexhausted : ¬ store.Exhausts operation) :
    Follows (history ++ [operation]) (store.perform operation).1 := by
  cases operation with
  | openDocument uri text version => exact follows.openDocument uri text version
  | updateDocument uri text => exact follows.updateDocument uri text unexhausted
  | closeDocument uri => exact follows.closeDocument uri

/-- What an operation comes back with is what the history says. -/
theorem dictates_perform (operation : Operation) (unexhausted : ¬ store.Exhausts operation) :
    Dictates history operation (store.perform operation).2 := by
  cases operation with
  | openDocument uri text version => rfl
  | updateDocument uri text =>
      rw [Store.perform, updateDocument_snd]
      cases found : store.get? uri with
      | none =>
          refine .inl ⟨?_, rfl⟩
          rw [← follows.listed_iff, ← isSome_get?_iff, found]
          exact Bool.false_ne_true
      | some document =>
          have notLast : document.version ≠ Int32.maxValue := fun last =>
            unexhausted (by simp [Exhausts, found, last])
          refine .inr ⟨?_, (document.updated text).version, ?_, ?_⟩
          · rw [← follows.listed_iff, ← isSome_get?_iff, found]
            rfl
          · rw [Option.map_some, Option.getD_some, Document.updateOutcome_of_ne notLast text]
          · refine (follows.updateDocument uri text unexhausted).version uri
              (document.updated text) ?_
            rw [get?_updateDocument, if_pos rfl, found]
            rfl
  | closeDocument uri =>
      refine ⟨_, rfl, ?_⟩
      rw [closeDocument_snd_iff, follows.listed_iff]

end Follows

/-- The store of a run shows what the run says. -/
theorem follows_performAll (operations : List Operation)
    (unexhausted : empty.NeverExhausts operations) :
    Follows operations (empty.performAll operations).1 := by
  induction operations using List.reverseRecOn with
  | nil => exact follows_empty
  | append_singleton before operation induction =>
      rw [neverExhausts_append] at unexhausted
      rw [performAll_append]
      exact (induction unexhausted.1).perform operation unexhausted.2.1

theorem dictates_performAll {operations before after : List Operation} {operation : Operation}
    (unexhausted : empty.NeverExhausts operations)
    (split : operations = before ++ operation :: after) :
    ∃ outcome, (empty.performAll operations).2[before.length]? = some outcome ∧
      Dictates before operation outcome := by
  subst split
  rw [neverExhausts_append] at unexhausted
  have follows := follows_performAll before unexhausted.1
  exact ⟨_, getElem?_performAll empty before after operation,
    follows.dictates_perform operation unexhausted.2.1⟩

/-- All that a run of operations says about the store behind it and about what came
back on the way. -/
structure ShowsHistory (operations : List Operation) (store : Store)
    (outcomes : List Outcome) : Prop where
  listed_iff : ∀ uri, uri ∈ store.models.map Document.uri ↔ IsOpen operations uri
  once : (store.models.map Document.uri).Nodup
  /-- The listing follows the openings that took its URIs from closed to open. -/
  placed : ∀ document ∈ store.models, ∃ position, OpenSince operations document.uri position
  ordered : store.models.Pairwise fun first second =>
    ∀ early late, OpenSince operations first.uri early →
      OpenSince operations second.uri late → early < late
  keyed : store.models.map Document.uri = store.listing.keys
  text : ∀ document ∈ store.models, HasText operations document.uri document.text
  version : ∀ document ∈ store.models,
    HasVersion operations document.uri document.version.toInt
  answered : outcomes.length = operations.length
  dictated : ∀ before operation after, operations = before ++ operation :: after →
    ∃ outcome, outcomes[before.length]? = some outcome ∧ Dictates before operation outcome
  get : ∀ uri, store.get? uri = Directory.firstOf store.models uri
  directory : store.directory = Directory.ofList store.models
  size : store.size = store.models.length
  isEmpty : store.isEmpty = store.models.isEmpty

/-- Every run of operations from the empty store, in which no update meets a document
of the last version, leaves the store that its history describes, and every operation
of it came back with what the operations before it dictate. -/
theorem performAll_showsHistory (operations : List Operation)
    (unexhausted : empty.NeverExhausts operations) :
    ShowsHistory operations (empty.performAll operations).1
      (empty.performAll operations).2 := by
  have follows := follows_performAll operations unexhausted
  generalize shown : (empty.performAll operations).1 = store at follows
  have listed : ∀ document ∈ store.models, document.uri ∈ store.listing.keys := by
    intro document member
    rw [← map_uri_models]
    exact List.mem_map_of_mem member
  exact {
    listed_iff := fun uri => by rw [map_uri_models, follows.listed_iff]
    once := nodup_map_uri_models store
    placed := fun document member => follows.placed document.uri (listed document member)
    ordered := by
      have ordered := follows.ordered
      rw [← map_uri_models] at ordered
      exact List.pairwise_map.1 ordered
    keyed := map_uri_models store
    text := fun document member => follows.text _ _ (mem_models_iff.1 member)
    version := fun document member => follows.version _ _ (mem_models_iff.1 member)
    answered := length_performAll empty operations
    dictated := fun before operation after split => dictates_performAll unexhausted split
    get := get?_eq_firstOf store
    directory := by
      rw [directory, Directory.ofList]
      congr
      exact funext (get?_eq_firstOf store)
    size := (length_models store).symm
    isEmpty := (isEmpty_models store).symm }

/-- A document reopened at its place and counted up to the last version, one opened in
between, and one closed again. -/
def reopening : List Operation :=
  [.openDocument "b" "one" 1, .openDocument "a" "two" 4, .openDocument "c" "three" 0,
    .updateDocument "a" "four", .openDocument "b" "five" 2147483646, .closeDocument "c",
    .updateDocument "b" "six", .updateDocument "c" "seven"]

theorem reopening_neverExhausts : empty.NeverExhausts reopening := by
  have first : (4 : Int32) ≠ Int32.maxValue := by decide
  have second : (2147483646 : Int32) ≠ Int32.maxValue := by decide
  simp [reopening, NeverExhausts, Exhausts, perform, first, second]

theorem reopening_showsHistory :
    empty.NeverExhausts reopening ∧
      (empty.performAll reopening).1.models =
        [⟨"b", 2147483647, "six"⟩, ⟨"a", 5, "four"⟩] ∧
      ShowsHistory reopening (empty.performAll reopening).1
        (empty.performAll reopening).2 :=
  ⟨reopening_neverExhausts, by decide,
    performAll_showsHistory reopening reopening_neverExhausts⟩

end LanguageWorker.Store
