import LanguageWorker.Proofs.MarkerEngine.Inspection
import LanguageWorker.Proofs.Text.Word

namespace LanguageWorker

/-! What the engine of the marker words tells about a position. It should be the word there. The
engine takes the word to begin one byte behind the last character in front of the position that is
no part of it. Where that character takes more than one byte, this is inside of it, and the engine
breaks off. The main statement says that it tells the word everywhere else. -/

open Text

namespace MarkerEngine

/-- A word as the engine gives it. -/
def wordRecord (word : List Char) : EngineRecord := .object [("text", .string (String.ofList word))]

end MarkerEngine

/-- The answer to a question about a position, by the engine and through a worker. -/
structure Worker.Informs (worker : Worker) (store : Store) (name : String) (position : UInt32)
    (answer : Answer EngineRecord) : Prop where
  service : (worker.service store).quickInfoAtPosition name position = answer.map some
  dispatch : worker.dispatch store "getQuickInfoAtPosition"
    (.array [.string name, .ofWord position]) = (worker, answer.mapError WorkerError.engine)

/-- What is promised about a position in a text that a worker has under a name. -/
structure Worker.TellsWord (worker : Worker) (store : Store) (name text : String)
    (position : UInt32) : Prop where
  word : AtEdge text.toList position.toNat → ∃ word, WordAt text.toList position.toNat word ∧
    worker.Informs store name position (.ok (MarkerEngine.wordRecord word))
  outside : (bytesOf text).length < position.toNat → worker.Informs store name position
    (.error (.reported ("Position " ++ toString position.toNat ++ " is outside of " ++ name)))

namespace MarkerEngine

variable {host : Host} {name : String} {position : UInt32} {text before front run : List Char}
  {character : Char} {offset : Nat}

/-! ## The beginning of a word -/

theorem wordStart_of_solid (solid : ∀ character ∈ before, isAlphanumeric character) :
    wordStart before = 0 := by
  have nothing : before.reverse.dropWhile isAlphanumeric = [] :=
    List.dropWhile_eq_nil_iff.2 fun character listed =>
      solid character (List.mem_reverse.1 listed)
  rw [wordStart, nothing]

theorem wordStart_of_stop (stops : ¬ isAlphanumeric character)
    (solid : ∀ other ∈ run, isAlphanumeric other) :
    wordStart (front ++ character :: run) = byteLength front + 1 := by
  have rest : (front ++ character :: run).reverse.dropWhile isAlphanumeric =
      character :: front.reverse := by
    rw [List.reverse_append, List.reverse_cons, List.append_assoc,
      List.dropWhile_append_of_pos fun other listed => solid other (List.mem_reverse.1 listed)]
    exact List.dropWhile_cons_of_neg stops
  rw [wordStart, rest]
  exact congrArg (· + 1) (byteLength_reverse front)

/-! ## The word at a position -/

theorem wordAt_of_slice?_eq_some {before after word : List Char}
    (sliced : slice? (before ++ after) (wordStart before)
      (byteLength before + byteLength (after.takeWhile isAlphanumeric)) = some word) :
    wordAt (before ++ after) (byteLength before) = .ok word := by
  simp only [wordAt, splitAtByte?_append, sliced]

theorem wordAt_of_slice?_eq_none {before after : List Char}
    (uncut : slice? (before ++ after) (wordStart before)
      (byteLength before + byteLength (after.takeWhile isAlphanumeric)) = none) :
    wordAt (before ++ after) (byteLength before) = .error .aborted := by
  simp only [wordAt, splitAtByte?_append, uncut]

theorem wordAt_of_not_atEdge (apart : ¬ AtEdge text offset) :
    wordAt text offset = .error .aborted := by
  have uncut : splitAtByte? text offset = none := by
    apply Option.eq_none_iff_forall_ne_some.2
    intro cut found
    exact apart ⟨cut.1, cut.2, splitAtByte?_eq_some found⟩
  rw [wordAt, uncut]

/-- The word comes if it is taken to begin where it does. -/
theorem wordAt_of_wordStart (starts : wordStart (front ++ run) = byteLength front)
    (after : List Char) :
    wordAt (front ++ run ++ after) (byteLength (front ++ run)) =
      .ok (run ++ after.takeWhile isAlphanumeric) := by
  apply wordAt_of_slice?_eq_some
  rw [starts]
  refine slice?_eq_some_iff.2 ⟨front, after.dropWhile isAlphanumeric, ?_, rfl, ?_⟩
  · simp only [List.append_assoc, List.takeWhile_append_dropWhile]
  · simp only [byteLength_append, Nat.add_assoc]

/-- There is no edge to cut at inside a character. -/
theorem slice?_of_inside (inside : Inside text offset) (stop : Nat) :
    slice? text offset stop = none := by
  apply Option.eq_none_iff_forall_ne_some.2
  intro word sliced
  rcases slice?_eq_some_iff.1 sliced with ⟨before, after, split, here, _⟩
  have edge : AtEdge text offset :=
    ⟨before, word ++ after, split.trans (List.append_assoc _ _ _), here⟩
  exact edge.not_inside inside

/-- One byte behind the beginning of a longer character is inside of it. -/
theorem wordAt_of_wideBefore (wide : WideBefore text offset) :
    wordAt text offset = .error .aborted := by
  rcases wide with ⟨front, character, run, after, rfl, rfl, stops, solid, long⟩
  have inside : Inside (front ++ character :: run ++ after) (byteLength front + 1) :=
    ⟨front, character, run ++ after, List.append_assoc _ _ _, Nat.lt_succ_self _,
      Nat.add_lt_add_left long _⟩
  apply wordAt_of_slice?_eq_none
  rw [wordStart_of_stop stops solid]
  exact slice?_of_inside inside _

/-- Everywhere else at an edge the word comes. -/
theorem exists_wordAt_of_not_wideBefore (edge : AtEdge text offset)
    (narrow : ¬ WideBefore text offset) :
    ∃ word, WordAt text offset word ∧ wordAt text offset = .ok word := by
  rcases edge with ⟨before, after, rfl, rfl⟩
  have right := longest_runFrom_takeWhile after
  rcases solid_or_exists_stop before with solid | ⟨front, character, run, rfl, stops, solid⟩
  · have starts : wordStart ([] ++ before) = byteLength [] := wordStart_of_solid solid
    exact ⟨_, ⟨before, after, before, _, rfl, rfl, longest_runUpTo_of_solid solid, right, rfl⟩,
      wordAt_of_wordStart starts after⟩
  · have single : character.utf8Size = 1 := by
      have positive := character.utf8Size_pos
      by_contra other
      exact narrow ⟨front, character, run, after, rfl, rfl, stops, solid, by omega⟩
    have starts :
        wordStart ((front ++ [character]) ++ run) = byteLength (front ++ [character]) := by
      rw [List.append_assoc, List.singleton_append, wordStart_of_stop stops solid,
        byteLength_append, byteLength_cons, single]
      rfl
    have comes := wordAt_of_wordStart starts after
    rw [List.append_assoc front [character] run] at comes
    exact ⟨_, ⟨_, after, run, _, rfl, rfl, longest_runUpTo_of_stop stops solid, right, rfl⟩, comes⟩

/-! ## Questions about a position -/

theorem quickInfo_of_within {text : String} (resolves : host.scriptText? name = some text)
    (within : position.toNat ≤ byteLength text.toList) :
    quickInfo host.view name position =
      (wordAt text.toList position.toNat).map wordRecord := by
  have checked : checkedPosition host.view name position = .ok ⟨name, text⟩ := by
    rw [checkedPosition, source_of_text resolves]
    exact if_pos within
  rw [quickInfo, checked]
  rfl

theorem quickInfo_of_outside {text : String} (resolves : host.scriptText? name = some text)
    (outside : byteLength text.toList < position.toNat) :
    quickInfo host.view name position =
      .error (.reported ("Position " ++ toString position.toNat ++ " is outside of " ++ name)) := by
  have checked : checkedPosition host.view name position =
      .error (.reported ("Position " ++ toString position.toNat ++ " is outside of " ++ name)) := by
    rw [checkedPosition, source_of_text resolves]
    exact if_neg (Nat.not_le_of_lt outside)
  rw [quickInfo, checked]
  rfl

end MarkerEngine

namespace Worker

open ParameterType Parameters MarkerEngine

variable {worker : Worker} {store : Store} {name text : String} {position : UInt32}
  {answer : Answer EngineRecord}

theorem dispatch_quickInfoAtPosition (worker : Worker) (store : Store) (name : String)
    (position : UInt32) :
    worker.dispatch store "getQuickInfoAtPosition" (.array [.string name, .ofWord position]) =
      (worker, written recordToJson ((worker.service store).quickInfoAtPosition name position)) := by
  have reads : ReadsAll [.text, .word] [.string name, .ofWord position] (name, position, ()) :=
    ⟨rfl, rfl, trivial⟩
  exact dispatch_of_takes .quickInfoAtPosition (fun _ => rfl)
    (.map _ (.cons .text (takes_one .word))) reads

/-- There is one answer, and it is that of the engine. -/
theorem informs_iff (marking : worker.engine = markerEngine) :
    worker.Informs store name position answer ↔
      quickInfo (worker.host store).view name position = answer := by
  have asked : (worker.service store).quickInfoAtPosition name position =
      (quickInfo (worker.host store).view name position).map some := by
    rw [service_of_markerEngine marking]
    rfl
  constructor
  · intro informs
    have same := asked.symm.trans informs.service
    exact Results.eq_of_map_eq (Option.some_injective _) same
  · intro same
    subst same
    refine ⟨asked, ?_⟩
    rw [dispatch_quickInfoAtPosition, asked]
    cases quickInfo (worker.host store).view name position with
    | ok record => rfl
    | error cause => rfl

section Promise

variable (marking : worker.engine = markerEngine)
  (resolves : (worker.host store).scriptText? name = some text)
include marking resolves

theorem tellsWord_of_not_wideBefore (narrow : ¬ WideBefore text.toList position.toNat) :
    worker.TellsWord store name text position where
  word := by
    intro edge
    have answered := quickInfo_of_within resolves edge.le_byteLength
    rcases exists_wordAt_of_not_wideBefore edge narrow with ⟨word, described, comes⟩
    rw [comes] at answered
    exact ⟨word, described, (informs_iff marking).2 answered⟩
  outside := by
    intro outside
    rw [length_bytesOf] at outside
    exact (informs_iff marking).2 (quickInfo_of_outside resolves outside)

theorem informs_aborted (within : position.toNat ≤ byteLength text.toList)
    (aborted : wordAt text.toList position.toNat = .error .aborted) :
    worker.Informs store name position (.error .aborted) := by
  have answered := quickInfo_of_within resolves within
  rw [aborted] at answered
  exact (informs_iff marking).2 answered

theorem informs_aborted_iff :
    worker.Informs store name position (.error .aborted) ↔
      Inside text.toList position.toNat ∨ WideBefore text.toList position.toNat := by
  constructor
  · intro informs
    by_contra spared
    rcases not_or.1 spared with ⟨outer, narrow⟩
    have tells := tellsWord_of_not_wideBefore marking resolves narrow
    rw [informs_iff marking] at informs
    by_cases within : position.toNat ≤ byteLength text.toList
    · rcases tells.word ((atEdge_iff_not_inside within).2 outer) with ⟨word, _, answered⟩
      cases informs.symm.trans ((informs_iff marking).1 answered)
    · have beyond : (bytesOf text).length < position.toNat := by
        rw [length_bytesOf]
        exact Nat.lt_of_not_le within
      cases informs.symm.trans ((informs_iff marking).1 (tells.outside beyond))
  · intro barred
    rcases barred with inside | wide
    · exact informs_aborted marking resolves inside.le_byteLength
        (wordAt_of_not_atEdge fun edge => edge.not_inside inside)
    · exact informs_aborted marking resolves wide.atEdge.le_byteLength (wordAt_of_wideBefore wide)

theorem not_tellsWord_of_wideBefore (wide : WideBefore text.toList position.toNat) :
    ¬ worker.TellsWord store name text position := by
  intro tells
  have aborted := (informs_aborted_iff marking resolves).2 (.inr wide)
  rcases tells.word wide.atEdge with ⟨word, _, answered⟩
  cases ((informs_iff marking).1 aborted).symm.trans ((informs_iff marking).1 answered)

end Promise

/-- The promise about a position is kept, except behind a longer character with nothing but a part
of the word in between. There, and inside of any character, the engine breaks off. -/
theorem tellsWord_iff (marking : worker.engine = markerEngine)
    (resolves : (worker.host store).scriptText? name = some text) (position : UInt32) :
    (worker.TellsWord store name text position ↔ ¬ WideBefore text.toList position.toNat) ∧
      (worker.Informs store name position (.error .aborted) ↔
        Inside text.toList position.toNat ∨ WideBefore text.toList position.toNat) := by
  refine ⟨⟨?_, tellsWord_of_not_wideBefore marking resolves⟩,
    informs_aborted_iff marking resolves⟩
  intro tells wide
  exact not_tellsWord_of_wideBefore marking resolves wide tells

/-- A worker that has no files but the documents. -/
def withoutFiles : Worker where
  documents := Store.directory
  engine := markerEngine
  libs := .empty
  settings := .empty
  extraLibs := .empty
  inlayHintsOptions := .empty

/-- A store with one document. -/
def oneDocument (text : String) : Store := Store.empty.openDocument "file:///a.ts" text 1

/-- Letters of several bytes do no harm in a word, but a dash does in front of one. -/
theorem tellsWord_of_longLetters :
    withoutFiles.engine = markerEngine ∧
      (withoutFiles.host (oneDocument "a é日b—")).scriptText? "file:///a.ts" = some "a é日b—" ∧
      (∃ word, WordAt "a é日b—".toList 4 word ∧
        withoutFiles.Informs (oneDocument "a é日b—") "file:///a.ts" 4 (.ok (wordRecord word))) ∧
      withoutFiles.Informs (oneDocument "a é日b—") "file:///a.ts" 11 (.error .aborted) := by
  have resolves : (withoutFiles.host (oneDocument "a é日b—")).scriptText? "file:///a.ts" =
      some "a é日b—" := by decide +kernel
  have narrow : ¬ WideBefore "a é日b—".toList 4 := by
    intro wide
    have aborted := wordAt_of_wideBefore wide
    revert aborted
    decide +kernel
  have wide : WideBefore "a é日b—".toList 11 :=
    ⟨"a é日b".toList, '—', [], [], rfl, rfl, by decide, List.forall_mem_nil _, by decide⟩
  have edge : AtEdge "a é日b—".toList 4 := ⟨"a é".toList, "日b—".toList, rfl, rfl⟩
  exact ⟨rfl, resolves, ((tellsWord_iff rfl resolves 4).1.2 narrow).word edge,
    (tellsWord_iff rfl resolves 11).2.2 (.inr wide)⟩

/-- It does not hold of every position that the engine keeps the promise. -/
theorem tellsWord_brokenOff :
    ¬ ∀ (worker : Worker) (store : Store) (name text : String) (position : UInt32),
      worker.engine = markerEngine → (worker.host store).scriptText? name = some text →
        worker.TellsWord store name text position := by
  intro promised
  have resolves : (withoutFiles.host (oneDocument "—x")).scriptText? "file:///a.ts" =
      some "—x" := by decide +kernel
  have wide : WideBefore "—x".toList (4 : UInt32).toNat :=
    ⟨[], '—', ['x'], [], rfl, rfl, by decide, List.forall_mem_singleton.2 (by decide), by decide⟩
  exact not_tellsWord_of_wideBefore rfl resolves wide (promised _ _ _ _ 4 rfl resolves)

end Worker

end LanguageWorker
