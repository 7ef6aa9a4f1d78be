import LanguageWorker.Proofs.Host.Sources
import LanguageWorker.Proofs.Session.Run
import LanguageWorker.Service.MarkerEngine

namespace LanguageWorker

/-! Extra declaration files that have just been replaced. They come back in three ways: as a
whole, in the listing of all files, and one by one, where a document or a built-in file may
be in front of them. The main statement says what comes back after any run, and that nothing
of it depends on the replacements before. -/

namespace Host

/-- Where the text of a file comes from, if the extra files have these entries. -/
inductive TextFrom (host : Host) (entries : List (String × ExtraLib)) (name : String) :
    Option String → Prop
  | document {document : Document} (shown : host.directory.model? name = some document) :
      TextFrom host entries name (some document.text)
  | builtIn {text : String} (closed : host.directory.model? name = none)
      (found : host.libs.get? name = some text) : TextFrom host entries name (some text)
  | short {text : String} (closed : host.directory.model? name = none)
      (inexact : host.libs.get? name = none)
      (found : host.libs.get? ("lib." ++ name ++ ".d.ts") = some text) :
      TextFrom host entries name (some text)
  | extra {lib : ExtraLib} (closed : host.directory.model? name = none)
      (inexact : host.libs.get? name = none)
      (foreign : host.libs.get? ("lib." ++ name ++ ".d.ts") = none)
      (listed : (name, lib) ∈ entries) : TextFrom host entries name (some lib.content)
  | nowhere (closed : host.directory.model? name = none) (inexact : host.libs.get? name = none)
      (foreign : host.libs.get? ("lib." ++ name ++ ".d.ts") = none)
      (unlisted : name ∉ entries.map Prod.fst) : TextFrom host entries name none

variable {host : Host} {name : String} {text : Option String}

theorem exists_textFrom (host : Host) (entries : List (String × ExtraLib)) (name : String) :
    ∃ text, host.TextFrom entries name text := by
  cases shown : host.directory.model? name with
  | some document => exact ⟨_, .document shown⟩
  | none =>
      cases exactly : host.libs.get? name with
      | some text => exact ⟨_, .builtIn shown exactly⟩
      | none =>
          cases shortly : host.libs.get? ("lib." ++ name ++ ".d.ts") with
          | some text => exact ⟨_, .short shown exactly shortly⟩
          | none =>
              by_cases listed : name ∈ entries.map Prod.fst
              · rcases List.mem_map.1 listed with ⟨entry, member, rfl⟩
                exact ⟨_, .extra shown exactly shortly member⟩
              · exact ⟨_, .nowhere shown exactly shortly listed⟩

theorem TextFrom.scriptText?_eq (source : host.TextFrom host.extraLibs.entries name text) :
    host.scriptText? name = text := by
  have notBuiltIn (inexact : host.libs.get? name = none)
      (foreign : host.libs.get? ("lib." ++ name ++ ".d.ts") = none) : ¬ host.IsBuiltIn name :=
    not_isBuiltIn_iff.2 ((builtInText?_of_shorthand inexact).trans foreign)
  cases source with
  | document shown => exact scriptText?_of_open shown
  | builtIn closed found =>
      exact scriptText?_of_builtIn (not_isOpen_iff.2 closed) (builtInText?_of_exact found)
  | short closed inexact found =>
      exact scriptText?_of_builtIn (not_isOpen_iff.2 closed)
        ((builtInText?_of_shorthand inexact).trans found)
  | extra closed inexact foreign listed =>
      exact scriptText?_of_extra (OrderedMap.get?_of_mem_entries listed)
        (not_isOpen_iff.2 closed) (notBuiltIn inexact foreign)
  | nowhere closed inexact foreign unlisted =>
      exact scriptText?_eq_none_iff.2 ⟨not_isOpen_iff.2 closed, notBuiltIn inexact foreign,
        OrderedMap.contains_iff.not.2 unlisted⟩

theorem scriptText?_eq_iff :
    host.scriptText? name = text ↔ host.TextFrom host.extraLibs.entries name text := by
  refine ⟨?_, TextFrom.scriptText?_eq⟩
  intro same
  rcases host.exists_textFrom host.extraLibs.entries name with ⟨other, source⟩
  rwa [← same, source.scriptText?_eq]

end Host

namespace Session

/-- What comes back for the extra declaration files, whatever the engine: all entries by
their names, their names behind those of the open documents, and the text of every file. -/
structure ReadsBack (session : Session) (entries : List (String × ExtraLib)) : Prop where
  extraLibs : ∀ engine given, (session.stepWith engine (.call "getExtraLibs" given)).2 =
    .answer (.ok (.object (entries.map fun entry => (entry.1, .object [
      ("content", .string entry.2.content),
      ("version", .number (.integer entry.2.version.toNat))]))))
  fileNames : ∀ engine given, (session.stepWith engine (.call "getScriptFileNames" given)).2 =
    .answer (.ok (.array ((session.host.directory.models.map Document.uri ++
      entries.map Prod.fst).map Json.string)))
  text_iff : ∀ engine name text,
    (session.stepWith engine (.call "getScriptText" (.array [.string name]))).2 =
        .answer (.ok (.string text)) ↔
      session.host.TextFrom entries name (some text)
  null_iff : ∀ engine name,
    (session.stepWith engine (.call "getScriptText" (.array [.string name]))).2 =
        .answer (.ok .null) ↔
      session.host.TextFrom entries name none

theorem stepWith_snd_of_decoded (session : Session) (engine : Engine) (method : Method)
    {given : Json} {request : Request} (decoded : Request.decode method given = .ok request) :
    (session.stepWith engine (.call method.name given)).2 =
      .answer ({ session.worker with engine }.query session.store request) := by
  simp only [stepWith, step, Worker.dispatch_of_decoded method decoded]

theorem stepWith_scriptText (session : Session) (engine : Engine) (name : String) :
    (session.stepWith engine (.call "getScriptText" (.array [.string name]))).2 =
      .answer (.ok (.orNull ((session.host.scriptText? name).map Json.string))) := by
  have decoded : Request.decode .scriptText (.array [.string name]) = .ok (.scriptText name) := rfl
  exact stepWith_snd_of_decoded session engine .scriptText decoded

theorem readsBack_of_ascending (session : Session)
    (ascending : session.worker.extraLibs.keys.Pairwise (· < ·)) :
    session.ReadsBack session.worker.extraLibs.entries where
  extraLibs engine given := by
    have written := ExtraLibs.toJson_eq session.worker.extraLibs
    rw [OrderedMap.sorted_of_pairwise ascending] at written
    exact (stepWith_snd_of_decoded session engine .extraLibs rfl).trans
      (congrArg (fun item => Reply.answer (.ok item)) written)
  fileNames engine given := stepWith_snd_of_decoded session engine .scriptFileNames rfl
  text_iff engine name text := by
    rw [stepWith_scriptText]
    refine Iff.trans ?_ Host.scriptText?_eq_iff
    cases session.host.scriptText? name <;> simp [Json.orNull]
  null_iff engine name := by
    rw [stepWith_scriptText]
    refine Iff.trans ?_ Host.scriptText?_eq_iff
    cases session.host.scriptText? name <;> simp [Json.orNull]

/-- A replacement that is accepted was by a form of files, and puts these in place. -/
theorem replaced_of_succeeded {session : Session} {engine : Engine} {item answer : Json}
    (succeeded : (session.stepWith engine (.call "updateExtraLibs" (.array [item]))).2 =
      .answer (.ok answer)) :
    ∃ libs, ExtraLibs.Form item libs ∧
      (session.stepWith engine (.call "updateExtraLibs" (.array [item]))).1.Same
        { session with worker := { session.worker with extraLibs := libs } } := by
  rcases stepWith_updateExtraLibs session engine (.array [item]) with
    ⟨cause, refused, _⟩ | ⟨other, libs, same, form, _, after⟩
  · cases refused.symm.trans succeeded
  · cases same
    exact ⟨libs, form, after⟩

/-- After any run, a replacement by the members of an object is accepted when each of them is a
form of a file. What comes back from then on is those files under their names, the names in
ascending order. Behind the documents of the run and the built-in files nothing else is
found, for the session is the one that had these files in place of its first ones. -/
theorem updateExtraLibs_readsBack (session : Session) (steps : List (Engine × Step))
    (engine : Engine) {members : List (String × Json)} (ordered : Json.Ordered members) :
    let last := (session.runWith steps).1
    let update := last.stepWith engine (.call "updateExtraLibs" (.array [.object members]))
    ((∃ answer, update.2 = .answer (.ok answer)) ↔
      ∀ member ∈ members, ∃ lib, ExtraLib.Form member.2 lib) ∧
    ∀ answer, update.2 = .answer (.ok answer) →
      ∃ entries,
        entries.map Prod.fst = members.map Prod.fst ∧
        (entries.map Prod.fst).Pairwise (· < ·) ∧
        List.Forall₂ (fun member entry => member.1 = entry.1 ∧ ExtraLib.Form member.2 entry.2)
          members entries ∧
        update.1.Same {
          store := (session.store.performAll
            (steps.filterMap fun taken => taken.2.operation?)).1
          worker := { session.worker with extraLibs := .ofList entries } } ∧
        update.1.ReadsBack entries := by
  intro last update
  have traced := traced_runWith session steps
  constructor
  · rw [← ExtraLibs.exists_form_iff]
    constructor
    · intro accepted
      rcases accepted with ⟨answer, succeeded⟩
      exact (replaced_of_succeeded succeeded).imp fun _ => And.left
    · intro readable
      rcases readable with ⟨libs, form⟩
      exact ⟨.null, congrArg Prod.snd (stepWith_updateExtraLibs_of_form last engine form)⟩
  · intro answer succeeded
    rcases replaced_of_succeeded succeeded with ⟨libs, form, after⟩
    rcases ExtraLibs.entries_of_form ordered form with ⟨keys, forms⟩
    have ascending : libs.keys.Pairwise (· < ·) := keys ▸ List.pairwise_map.2 ordered
    have held : update.1.worker.extraLibs = libs := after.extraLibs
    have setup : update.1.SameSetup session :=
      (stepWith_sameSetup last engine _).trans traced.toSameSetup
    refine ⟨libs.entries, keys, ascending, forms, ?_, ?_⟩
    · rw [OrderedMap.ofList_entries]
      exact ⟨⟨setup.documents, setup.libs, setup.settings, setup.inlayHintsOptions⟩,
        after.store.trans traced.store, held⟩
    · rw [← held] at ascending ⊢
      exact readsBack_of_ascending update.1 ascending

def withDom : Session where
  store := .empty
  worker := {
    documents := Store.directory
    engine := markerEngine
    libs := .ofList [("lib.dom.d.ts", "interface Node {}")]
    settings := .empty
    extraLibs := .ofList [("first.d.ts", { content := "declare const x: 1;", version := 1 })]
    inlayHintsOptions := .empty }

/-- A document is opened under the name of a file that comes later. -/
def earlierSteps : List Step :=
  [.openDocument "a.d.ts" "open" 1,
    .call "updateExtraLibs" (.array [.object [("old.d.ts", .array [.string "old", .ofWord 1])]]),
    .call "getExtraLibs" .null]

/-- The first file is hidden by the document, and the second by the built-in file. -/
def replacing : List (String × Json) :=
  [("a.d.ts", .array [.string "closed", .ofWord 1]), ("dom", .array [.string "short", .ofWord 2]),
    ("g.d.ts", .object [("author", .null), ("content", .string "shown"), ("version", .ofWord 3)])]

theorem updateExtraLibs_readsBack_replacing :
    let last := (withDom.runWith (earlierSteps.map fun step => (markerEngine, step))).1
    let update := last.stepWith markerEngine
      (.call "updateExtraLibs" (.array [.object replacing]))
    Json.Ordered replacing ∧ (∃ answer, update.2 = .answer (.ok answer)) ∧
      ∃ entries, entries.map Prod.fst = ["a.d.ts", "dom", "g.d.ts"] ∧
        update.1.ReadsBack entries := by
  intro last update
  have ordered : Json.Ordered replacing := by
    unfold Json.Ordered replacing
    decide
  have replaced := updateExtraLibs_readsBack withDom
    (earlierSteps.map fun step => (markerEngine, step)) markerEngine ordered
  have forms : ∀ member ∈ replacing, ∃ lib, ExtraLib.Form member.2 lib := by
    simp only [replacing, List.forall_mem_cons]
    exact ⟨⟨_, .array "closed" 1⟩, ⟨_, .array "short" 2⟩, ⟨_, .object "shown" 3 rfl rfl⟩, nofun⟩
  rcases replaced.1.2 forms with ⟨answer, succeeded⟩
  rcases replaced.2 answer succeeded with ⟨entries, keys, _, _, _, back⟩
  exact ⟨ordered, ⟨answer, succeeded⟩, entries, keys, back⟩

end Session

end LanguageWorker
