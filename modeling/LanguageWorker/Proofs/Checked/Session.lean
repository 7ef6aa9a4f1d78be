import LanguageWorker.Proofs.Checked.Host
import LanguageWorker.Proofs.Checked.Worker
import LanguageWorker.Proofs.Documents.Update
import LanguageWorker.Proofs.Session.Run
import LanguageWorker.Service.MarkerEngine

namespace LanguageWorker

/-! Sessions in which a step may break off. An update that does so while it holds the lock of its
document leaves the lock poisoned, and all that take it later have to put up with that. The main
statement compares such a process with the plain session: every move comes through with the same
result, but for those at which the engine breaks off and those that count up a last version. -/

/-! ## Locks -/

namespace Document

/-- Take the lock of a document. That an update has broken off under it is reported. -/
def lock (document : Document) (poisoned : Bool) : Except Document Document :=
  if poisoned then .error document else .ok document

/-- Go on with a document, whatever is reported of its lock. -/
def recover : Except Document Document → Document
  | .ok document => document
  | .error document => document

theorem recover_lock (document : Document) (poisoned : Bool) :
    recover (document.lock poisoned) = document := by
  cases poisoned with
  | false => rfl
  | true => rfl

end Document

/-- A session, and the handles of the documents under whose locks an update has broken off. -/
structure Process where
  session : Session
  poisoned : List Handle

/-- What anybody may do with a session: take a step at which an engine answers, or ask the host. -/
inductive Move where
  | step (engine : Engine) (step : Step)
  | ask (question : Host.Question)

namespace Move

@[reducible] def Result : Move → Type
  | step _ _ => Reply
  | ask question => question.Answer

def step? : Move → Option (Engine × Step)
  | .step engine taken => some (engine, taken)
  | .ask _ => none

end Move

/-- What a reply comes to where a step may break off. -/
def Reply.checked : Reply → Checked Reply
  | .updated .versionsExhausted => .error .overflow
  | .answer (.error (.engine .aborted)) => .error .engine
  | reply => .ok reply

namespace Process

/-- The documents as they are read through their locks. -/
def cells (process : Process) : Array Document :=
  process.session.store.cells.mapIdx fun handle document =>
    .recover (document.lock (process.poisoned.contains handle))

theorem cells_eq (process : Process) : process.cells = process.session.store.cells := by
  simp only [cells, Document.recover_lock]
  exact Array.ext Array.size_mapIdx fun index _ _ => Array.getElem_mapIdx _

/-- The session as it is read through the locks. -/
def seen (process : Process) : Session where
  store :=
    { cells := process.cells
      listing := process.session.store.listing
      listed_uri := process.cells_eq ▸ process.session.store.listed_uri }
  worker := process.session.worker

theorem seen_eq (process : Process) : process.seen = process.session := by
  simp only [seen, cells_eq]

def withEngine (process : Process) (engine : Engine) : Process :=
  { process with
    session := { process.session with worker := { process.session.worker with engine } } }

def write (process : Process) (handle : Handle) (text : String) (version : Int32) : Process :=
  { process with
    session :=
      { process.session with store := process.session.store.write handle text version } }

/-- Replace the text of an open document. The lock of the document is held while the version is
counted, and the text is there by then. -/
def updateDocument (process : Process) (uri text : String) : Process × Checked Reply :=
  match process.seen.store.handle? uri with
  | none => (process, .ok (.updated .notOpen))
  | some handle =>
      match process.seen.store.read? handle with
      | none => (process, .ok (.updated .notOpen))
      | some document =>
          match Checked.count document.version with
          | .ok version => (process.write handle text version, .ok (.updated (.updated version)))
          | .error cause =>
              ({ process.write handle text document.version with
                 poisoned := handle :: process.poisoned }, .error cause)

def call (process : Process) (method : String) (given : Json) : Process × Checked Reply :=
  let (worker, answer) :=
    process.seen.worker.checkedDispatch process.seen.store method given
  ({ process with session := { process.session with worker } },
    answer.bind fun result => (Reply.answer result).checked)

def takeStep (process : Process) : Step → Process × Checked Reply
  | .updateDocument uri text => process.updateDocument uri text
  | .call method given => process.call method given
  | step =>
      let (session, reply) := process.session.step step
      ({ process with session }, .ok reply)

def take (process : Process) : (move : Move) → Process × Checked move.Result
  | .step engine step => (process.withEngine engine).takeStep step
  | .ask question => (process, process.seen.host.checkedAnswer question)

/-- Make moves one after the other, and keep what comes of each. -/
def run (process : Process) : List Move → Process × List ((move : Move) × Checked move.Result)
  | [] => (process, [])
  | move :: rest =>
      let next := process.take move
      let last := next.1.run rest
      (last.1, ⟨move, next.2⟩ :: last.2)

end Process

/-! ## How a move breaks off -/

/-- An update of a document of the last version breaks off, and so does a call at which the engine
does. -/
inductive Session.BreaksOff (session : Session) : Move → Break → Prop
  | overflow {engine : Engine} {uri text : String} {document : Document}
      (found : session.store.get? uri = some document)
      (last : document.version = Int32.maxValue) :
      BreaksOff session (.step engine (.updateDocument uri text)) .overflow
  | engine {engine : Engine} {method : String} {given : Json}
      (raised : { session.worker with engine }.EngineBreaksOff session.store method given) :
      BreaksOff session (.step engine (.call method given)) .engine

theorem Reply.checked_eq_ok {reply other : Reply} (comes : reply.checked = .ok other) :
    other = reply := by
  unfold checked at comes
  split at comes
  · cases comes
  · cases comes
  · cases comes
    rfl

theorem Reply.checked_eq_error_iff {reply : Reply} {cause : Break} :
    reply.checked = .error cause ↔
      (cause = .overflow ∧ reply = .updated .versionsExhausted) ∨
        (cause = .engine ∧ reply = .answer (.error (.engine .aborted))) := by
  unfold checked
  constructor
  · intro breaks
    split at breaks
    · cases breaks
      exact .inl ⟨rfl, rfl⟩
    · cases breaks
      exact .inr ⟨rfl, rfl⟩
    · cases breaks
  · intro described
    rcases described with ⟨rfl, rfl⟩ | ⟨rfl, rfl⟩
    · rfl
    · rfl

theorem Session.breaksOff_iff {session : Session} {engine : Engine} {step : Step} {cause : Break} :
    (session.stepWith engine step).2.checked = .error cause ↔
      session.BreaksOff (.step engine step) cause := by
  rw [Reply.checked_eq_error_iff]
  constructor
  · intro described
    rcases described with ⟨rfl, reply⟩ | ⟨rfl, reply⟩
    · cases step with
      | updateDocument uri text =>
          have exhausted := Reply.updated.inj reply
          rcases Store.updateDocument_eq_versionsExhausted_iff.1 exhausted with
            ⟨document, found, last⟩
          exact .overflow found last
      | _ => cases reply
    · cases step with
      | call method given =>
          exact .engine (Worker.dispatch_eq_aborted_iff.1 (Reply.answer.inj reply))
      | _ => cases reply
  · intro breaks
    cases breaks with
    | overflow found last =>
        refine .inl ⟨rfl, congrArg Reply.updated ?_⟩
        exact Store.updateDocument_eq_versionsExhausted_iff.2 ⟨_, found, last⟩
    | engine raised =>
        exact .inr ⟨rfl, congrArg Reply.answer (Worker.dispatch_eq_aborted_iff.2 raised)⟩

/-- What comes of a move in a session in which nothing breaks off. -/
def Session.result (session : Session) : (move : Move) → move.Result
  | .step engine step => (session.stepWith engine step).2
  | .ask question => session.host.answer question

/-- What may come of a move. -/
structure Session.Comes (session : Session) (move : Move) (result : Checked move.Result) :
    Prop where
  breaksOff_iff : ∀ cause, result = .error cause ↔ session.BreaksOff move cause
  value : ∀ value, result = .ok value → value = session.result move

namespace Process

/-! ## Moves -/

theorem updateDocument_eq (process : Process) (uri text : String) :
    (process.updateDocument uri text).1.session =
        (process.session.step (.updateDocument uri text)).1 ∧
      (process.updateDocument uri text).2 =
        (process.session.step (.updateDocument uri text)).2.checked := by
  simp only [updateDocument, seen_eq, Session.step, Store.updateDocument]
  cases process.session.store.handle? uri with
  | none => exact ⟨rfl, rfl⟩
  | some handle =>
      dsimp only
      cases process.session.store.read? handle with
      | none => exact ⟨rfl, rfl⟩
      | some document =>
          -- The text is written either way, and the version decides what comes back.
          by_cases last : document.version = Int32.maxValue
          · simp only [last, Checked.count_maxValue]
            exact ⟨rfl, rfl⟩
          · simp only [Store.nextVersion?_of_ne last, Checked.count_of_ne last]
            exact ⟨rfl, rfl⟩

theorem takeStep_eq (process : Process) (step : Step) :
    (process.takeStep step).1.session = (process.session.step step).1 ∧
      (process.takeStep step).2 = (process.session.step step).2.checked := by
  cases step with
  | openDocument uri text version => exact ⟨rfl, rfl⟩
  | updateDocument uri text => exact process.updateDocument_eq uri text
  | closeDocument uri => exact ⟨rfl, rfl⟩
  | updateExtraLibs libs => exact ⟨rfl, rfl⟩
  | call method given =>
      simp only [takeStep, call, seen_eq, Worker.checkedDispatch_eq]
      exact ⟨rfl, rfl⟩

/-- The state behind a move. -/
theorem session_take (process : Process) (move : Move) :
    (process.take move).1.session =
      (process.session.runWith move.step?.toList).1 := by
  cases move with
  | step engine step => exact ((process.withEngine engine).takeStep_eq step).1
  | ask question => rfl

theorem comes_take (process : Process) (move : Move) :
    process.session.Comes move (process.take move).2 := by
  cases move with
  | step engine step =>
      have comes : (process.take (.step engine step)).2 =
          (process.session.stepWith engine step).2.checked :=
        ((process.withEngine engine).takeStep_eq step).2
      rw [comes]
      exact ⟨fun _ => Session.breaksOff_iff, fun _ => Reply.checked_eq_ok⟩
  | ask question =>
      have comes : (process.take (.ask question)).2 =
          .ok (process.session.host.answer question) := by
        rw [take, seen_eq]
        exact Host.checkedAnswer_eq _ question
      rw [comes]
      constructor
      · exact fun _ => iff_of_false nofun nofun
      · intro value same
        exact (Except.ok.inj same).symm

/-! ## Runs -/

theorem session_run (process : Process) (moves : List Move) :
    (process.run moves).1.session =
      (process.session.runWith (moves.filterMap Move.step?)).1 := by
  induction moves generalizing process with
  | nil => rfl
  | cons move rest induction =>
      -- Locks that a move leaves poisoned make no difference to the rest.
      rw [run, induction, session_take, List.filterMap_cons]
      cases move.step? with
      | none => rfl
      | some taken => rfl

theorem map_fst_run (process : Process) (moves : List Move) :
    (process.run moves).2.map Sigma.fst = moves := by
  induction moves generalizing process with
  | nil => rfl
  | cons move rest induction => exact congrArg (move :: ·) (induction (process.take move).1)

theorem getElem?_run (process : Process) (before after : List Move) (move : Move) :
    (process.run (before ++ move :: after)).2[before.length]? =
      some ⟨move, ((process.run before).1.take move).2⟩ := by
  induction before generalizing process with
  | nil => rfl
  | cons first rest induction => exact induction (process.take first).1

/-- What comes of some moves, made one after the other. -/
structure RunsThrough (process : Process) (moves : List Move) : Prop where
  session : (process.run moves).1.session =
    (process.session.runWith (moves.filterMap Move.step?)).1
  /-- Every move is made, whatever has broken off before. -/
  made : (process.run moves).2.map Sigma.fst = moves
  comes : ∀ before move after, moves = before ++ move :: after →
    ∃ result, (process.run moves).2[before.length]? = some ⟨move, result⟩ ∧
      (process.session.runWith (before.filterMap Move.step?)).1.Comes move result

theorem runsThrough (process : Process) (moves : List Move) : RunsThrough process moves where
  session := process.session_run moves
  made := process.map_fst_run moves
  comes := by
    intro before move after split
    subst split
    refine ⟨_, process.getElem?_run before after move, ?_⟩
    rw [← session_run]
    exact (process.run before).1.comes_take move

/-- Whatever has broken off in a process before, a move breaks off only where the engine does or
where an update counts up the last version there is, and all moves after it are made. Nothing else
that counts or cuts ever breaks off: the answers of hosts, which the engine may ask for at any
time, the spans that it is handed, the years in the names of tiers and of files, and the pieces of
snapshots. -/
theorem run_breaksOff (process : Process) (moves : List Move) :
    RunsThrough process moves ∧
    (∀ host question, Host.checkedAnswer host question = .ok (host.answer question)) ∧
    (∀ worker store start stop, Worker.HandsSpan worker store start stop) ∧
    (∀ name, ScriptTarget.checkedOfName? name = .ok (ScriptTarget.ofName? name)) ∧
    (∀ target, DefaultLib.checkedYearName target = .ok (DefaultLib.yearName target) ∧
      ∃ year, DefaultLib.checkedYear target = .ok year ∧
        year.toNat = min (2013 + target.ordinal.toNat) 4294967295) ∧
    ∀ snapshot start stop, Snapshot.CutsWithin snapshot start stop := by
  refine ⟨process.runsThrough moves, Host.checkedAnswer_eq, Worker.handsSpan,
    ScriptTarget.checkedOfName?_eq, ?_, Snapshot.cutsWithin⟩
  intro target
  exact ⟨DefaultLib.checkedYearName_eq target, DefaultLib.checkedYear_eq target⟩

example :
    let context : WorkerContext := ⟨Store.directory, markerEngine, .empty⟩
    let process : Process := ⟨⟨.empty, .ofPayload context .empty⟩, []⟩
    let last := (process.run [
      .step markerEngine (.openDocument "a" "old" 2147483647),
      .step markerEngine (.updateDocument "a" "new"),
      .step markerEngine (.updateDocument "a" "newer")]).1
    last.poisoned = [0, 0] ∧ last.seen.host.fileText "a" = "newer" := by
  decide +kernel

end Process

end LanguageWorker
