import LanguageWorker.Worker.Dispatch

namespace LanguageWorker

/-! A session: a worker beside the store of the editor it serves, and the steps
that the editor takes. -/

structure Session where
  store : Store
  worker : Worker

/-- A step of the editor. -/
inductive Step where
  | openDocument (uri text : String) (version : Int32)
  | updateDocument (uri text : String)
  | closeDocument (uri : String)
  | updateExtraLibs (libs : ExtraLibs)
  | call (method : String) (given : Json)

/-- What the editor gets back from a step. -/
inductive Reply where
  | done
  | updated (outcome : Store.UpdateOutcome)
  | closed (wasOpen : Bool)
  | answer (result : Except WorkerError Json)

namespace Session

def host (session : Session) : Host := session.worker.host session.store

def step (session : Session) : Step → Session × Reply
  | .openDocument uri text version =>
      ({ session with store := session.store.openDocument uri text version }, .done)
  | .updateDocument uri text =>
      let (store, outcome) := session.store.updateDocument uri text
      ({ session with store }, .updated outcome)
  | .closeDocument uri =>
      let (store, wasOpen) := session.store.closeDocument uri
      ({ session with store }, .closed wasOpen)
  | .updateExtraLibs libs =>
      ({ session with worker := session.worker.updateExtraLibs libs }, .done)
  | .call method given =>
      let (worker, result) := session.worker.dispatch session.store method given
      ({ session with worker }, .answer result)

/-- Take steps one after the other and collect the replies. -/
def run (session : Session) : List Step → Session × List Reply
  | [] => (session, [])
  | step :: steps =>
      let (session, reply) := session.step step
      let (session, replies) := session.run steps
      (session, reply :: replies)

end Session

end LanguageWorker
