import LanguageWorker.Proofs.MarkerEngine.Inspection

namespace LanguageWorker

/-! Formatting by the engine of the marker words. Every tab is replaced by four spaces. The changes
of a text are all meant for the text as it was, so they are applied from the last one to the
first. Each replaces a single byte, and no offset is in the middle of it: the changes of a range
are therefore those of its two parts, wherever it is divided. -/

/-- A span lies between two offsets. -/
def Span.Within (span : Span) (start stop : UInt32) : Prop :=
  start.toNat ≤ span.start.toNat ∧ span.start.toNat + span.length.toNat ≤ stop.toNat

instance (span : Span) (start stop : UInt32) : Decidable (span.Within start stop) :=
  inferInstanceAs (Decidable (_ ∧ _))

/-- A text with four spaces for every tab. -/
def Text.expandTabs (text : List Char) : List Char :=
  text.flatMap fun character => if character = '\t' then "    ".toList else [character]

namespace TextChange

/-- The text with the new piece in the place of the old one, if there is an old one. -/
def applied? (change : TextChange) (text : List Char) : Option (List Char) := do
  let (before, rest) ← Text.splitAtByte? text change.span.start.toNat
  let (_, after) ← Text.splitAtByte? rest change.span.length.toNat
  return before ++ change.newText.toList ++ after

/-- All changes of a text, the last one first. -/
def appliedAll? (changes : List TextChange) (text : List Char) : Option (List Char) :=
  changes.foldr (fun change changed => changed.bind change.applied?) (some text)

/-- The changes between two offsets. -/
def between (start stop : UInt32) (changes : List TextChange) : List TextChange :=
  changes.filter fun change => change.span.Within start stop

end TextChange

/-- The changes by which a worker formats a text that it has under a name. Calls write them
down. -/
structure Worker.Formats (worker : Worker) (store : Store) (name text : String)
    (changes : List TextChange) : Prop where
  document : ∀ options,
    (worker.service store).formattingEditsForDocument name options = .ok changes ∧
      ∃ item, Json.ArrayOf TextChange.Describes changes item ∧
        worker.dispatch store "getFormattingEditsForDocument" (.array [.string name, options]) =
          (worker, .ok item)
  range : ∀ start stop options,
    (worker.service store).formattingEditsForRange name start stop options =
        .ok (TextChange.between start stop changes) ∧
      ∃ item, Json.ArrayOf TextChange.Describes (TextChange.between start stop changes) item ∧
        worker.dispatch store "getFormattingEditsForRange"
            (.array [.string name, .ofWord start, .ofWord stop, options]) =
          (worker, .ok item)
  increasing : changes.Pairwise fun first second => first.span.start < second.span.start
  disjoint : changes.Pairwise fun first second =>
    first.span.start.toNat + first.span.length.toNat ≤ second.span.start.toNat
  /-- No span reaches further than the offsets do. -/
  stops : ∀ change ∈ changes, ∃ stop, change.span.stop? = some stop
  applied : TextChange.appliedAll? changes text.toList = some (Text.expandTabs text.toList)
  append : ∀ start middle stop, start ≤ middle → middle ≤ stop →
    TextChange.between start middle changes ++ TextChange.between middle stop changes =
      TextChange.between start stop changes
  reversed : ∀ start stop, stop < start → TextChange.between start stop changes = []

/-! ## Parts of a range -/

theorem filter_append_filter {α : Type} {first second : α → Bool} {items : List α}
    (apart : ∀ item ∈ items, second item → ¬ first item)
    (ordered : items.Pairwise fun item later => second item → ¬ first later) :
    items.filter first ++ items.filter second =
      items.filter fun item => first item || second item := by
  induction items with
  | nil => rfl
  | cons item rest induction =>
      have others := induction (fun later member => apart later (.tail _ member)) ordered.tail
      cases inSecond : second item with
      | false =>
          have skipped : ¬ second item := ne_true_of_eq_false inSecond
          rw [List.filter_cons_of_neg skipped, List.filter_cons, List.filter_cons, inSecond,
            Bool.or_false, ← others]
          cases first item with
          | false => rfl
          | true => rfl
      | true =>
          -- Nothing from here on is in the first part.
          have none : rest.filter first = [] := List.filter_eq_nil_iff.2 fun _ member =>
            List.rel_of_pairwise_cons ordered member inSecond
          rw [List.filter_cons_of_neg (apart item (.head _) inSecond),
            List.filter_cons_of_pos inSecond, List.filter_cons, inSecond, Bool.or_true, ← others,
            none]
          rfl

namespace Span

variable {span other : Span} {start middle stop : UInt32}

/-- A single byte is on one side of every offset. -/
theorem within_iff (single : span.length = 1) (before : start ≤ middle) (behind : middle ≤ stop) :
    span.Within start stop ↔ span.Within start middle ∨ span.Within middle stop := by
  rw [UInt32.le_iff_toNat_le] at before behind
  simp only [Within, single, UInt32.toNat_one]
  omega

/-- What is not before a span of the second part is not in the first one. -/
theorem not_within (single : other.length = 1) (inSecond : span.Within middle stop)
    (ordered : span.start ≤ other.start) : ¬ other.Within start middle := by
  rw [UInt32.le_iff_toNat_le] at ordered
  intro inFirst
  have before := inFirst.2
  have behind := inSecond.1
  rw [single, UInt32.toNat_one] at before
  omega

end Span

namespace TextChange

variable {changes : List TextChange} {start middle stop : UInt32}

theorem between_append_between (single : ∀ change ∈ changes, change.span.length = 1)
    (increasing : changes.Pairwise fun first second => first.span.start < second.span.start)
    (before : start ≤ middle) (behind : middle ≤ stop) :
    between start middle changes ++ between middle stop changes = between start stop changes := by
  rw [between, between, between, filter_append_filter]
  · apply List.filter_congr
    intro change member
    rw [← Bool.decide_or, decide_eq_decide]
    exact (Span.within_iff (single change member) before behind).symm
  · intro change member inSecond
    rw [decide_eq_true_eq] at inSecond ⊢
    exact Span.not_within (single change member) inSecond (UInt32.le_refl _)
  · apply increasing.imp_of_mem
    intro change later _ member ordered inSecond
    rw [decide_eq_true_eq] at inSecond ⊢
    exact Span.not_within (single later member) inSecond (UInt32.le_of_lt ordered)

theorem between_of_reversed (reversed : stop < start) (changes : List TextChange) :
    between start stop changes = [] := by
  apply List.filter_eq_nil_iff.2
  intro change _ within
  have bounds := of_decide_eq_true within
  have order := Nat.le_trans bounds.1 (Nat.le_trans (Nat.le_add_right _ _) bounds.2)
  exact Nat.not_lt_of_le order (UInt32.lt_iff_toNat_lt.1 reversed)

end TextChange

namespace MarkerEngine

open Text

variable {host : Host} {name text : String} {place : Nat} {start stop : UInt32}

/-! ## Tabs -/

theorem unbordered_tab : Unbordered ['\t'] := by decide

theorem applied?_tabChange (before after : List Char) (small : byteLength before < UInt32.size) :
    (tabChange (byteLength before)).applied? (before ++ '\t' :: after) =
      some (before ++ "    ".toList ++ after) := by
  have place : (tabChange (byteLength before)).span.start.toNat = byteLength before :=
    UInt32.toNat_ofNat_of_lt' small
  have behind : splitAtByte? ('\t' :: after) 1 = some (['\t'], after) :=
    splitAtByte?_append ['\t'] after
  simp only [TextChange.applied?, place, splitAtByte?_append, Option.bind_eq_bind, Option.bind_some]
  rw [tabChange, UInt32.toNat_one, behind]
  rfl

theorem occurrencesFrom_tab_cons (before rest : List Char) (character : Char) :
    occurrencesFrom ['\t'] 0 (byteLength before) (character :: rest) =
      (if character = '\t' then [byteLength before] else []) ++
        occurrencesFrom ['\t'] 0 (byteLength (before ++ [character])) rest := by
  have behind : byteLength (before ++ [character]) = byteLength before + character.utf8Size := by
    rw [byteLength_append, byteLength_cons]
    rfl
  have here : ['\t'].isPrefixOf (character :: rest) ↔ character = '\t' := by
    rw [List.isPrefixOf_iff_prefix, List.cons_prefix_cons, and_iff_left List.nil_prefix, eq_comm]
  rw [occurrencesFrom, behind]
  by_cases tab : character = '\t'
  · rw [if_pos (here.2 tab), if_pos tab]
    rfl
  · rw [if_neg (mt here.1 tab), if_neg tab]
    rfl

/-- Tabs that are still to come do not change what stands before them. -/
theorem appliedAll?_tabChange (before rest : List Char)
    (small : byteLength (before ++ rest) < UInt32.size) :
    TextChange.appliedAll? ((occurrencesFrom ['\t'] 0 (byteLength before) rest).map tabChange)
      (before ++ rest) = some (before ++ expandTabs rest) := by
  induction rest generalizing before with
  | nil => rfl
  | cons character rest induction =>
      have further : before ++ character :: rest = (before ++ [character]) ++ rest :=
        List.append_cons before character rest
      have others := induction (before ++ [character]) (further ▸ small)
      rw [← further, List.append_assoc] at others
      rw [occurrencesFrom_tab_cons, expandTabs, List.flatMap_cons, ← expandTabs]
      by_cases tab : character = '\t'
      · subst tab
        have fits : byteLength before < UInt32.size := by
          rw [byteLength_append] at small
          omega
        have here := applied?_tabChange before (expandTabs rest) fits
        rw [if_pos rfl, if_pos rfl, ← List.append_assoc]
        exact (congrArg (Option.bind · _) others).trans here
      · rw [if_neg tab, if_neg tab]
        exact others

/-- In a text that is not too long, the place of a tab is an offset. -/
theorem toNat_start_tabChange (small : (bytesOf text).length < UInt32.size)
    (found : place ∈ occurrences ['\t'] text.toList) :
    (tabChange place).span.start.toNat = place ∧ place + 1 < UInt32.size := by
  have within := ((mem_occurrences_iff unbordered_tab).1 found).le_byteLength
  rw [length_bytesOf] at small
  have size : byteLength ['\t'] = 1 := rfl
  have fits : place + 1 < UInt32.size := by omega
  exact ⟨UInt32.toNat_ofNat_of_lt' (Nat.lt_of_succ_lt fits), fits⟩

theorem stop?_tabChange (small : (bytesOf text).length < UInt32.size)
    (found : place ∈ occurrences ['\t'] text.toList) :
    ∃ stop, (tabChange place).span.stop? = some stop ∧ stop.toNat = place + 1 := by
  rcases toNat_start_tabChange small found with ⟨start, fits⟩
  have kept : (UInt32.ofNat (place + 1)).toNat = place + 1 := UInt32.toNat_ofNat_of_lt' fits
  refine ⟨UInt32.ofNat (place + 1), Span.stop?_of_toNat_eq ?_, kept⟩
  rw [start, kept]
  rfl

theorem liesWithin_tabChange (small : (bytesOf text).length < UInt32.size)
    (found : place ∈ occurrences ['\t'] text.toList) :
    liesWithin start stop (tabChange place) =
      .ok (decide ((tabChange place).span.Within start stop)) := by
  rcases toNat_start_tabChange small found with ⟨first, _⟩
  rcases stop?_tabChange small found with ⟨behind, stops, last⟩
  have length : (tabChange place).span.length.toNat = 1 := rfl
  simp only [liesWithin, stops, UInt32.le_iff_toNat_le, Span.Within, first, last, length]
  split
  · next after => simp only [after, true_and]
  · next before => simp only [before, false_and, decide_false]

/-! ## The changes of a text -/

/-- The changes of all tabs of a text. -/
def tabChanges (text : String) : List TextChange :=
  (occurrences ['\t'] text.toList).map tabChange

theorem single_of_mem_tabChanges {change : TextChange} (member : change ∈ tabChanges text) :
    change.span.length = 1 := by
  rcases List.mem_map.1 member with ⟨place, _, rfl⟩
  rfl

theorem increasing_tabChanges (small : (bytesOf text).length < UInt32.size) :
    (tabChanges text).Pairwise fun first second => first.span.start < second.span.start := by
  apply List.pairwise_map.2
  apply (pairwise_lt_occurrences unbordered_tab text.toList).imp_of_mem
  intro first second foundFirst foundSecond ordered
  rw [UInt32.lt_iff_toNat_lt, (toNat_start_tabChange small foundFirst).1,
    (toNat_start_tabChange small foundSecond).1]
  exact ordered

theorem disjoint_tabChanges (small : (bytesOf text).length < UInt32.size) :
    (tabChanges text).Pairwise fun first second =>
      first.span.start.toNat + first.span.length.toNat ≤ second.span.start.toNat := by
  apply List.pairwise_map.2
  apply (pairwise_occurrences unbordered_tab text.toList).imp_of_mem
  intro first second foundFirst foundSecond apart
  rw [(toNat_start_tabChange small foundFirst).1, (toNat_start_tabChange small foundSecond).1]
  exact apart

theorem documentEdits_of_text (resolves : host.scriptText? name = some text) :
    documentEdits host.view name = .ok (tabChanges text) := by
  rw [documentEdits, source_of_text resolves]
  rfl

theorem rangeEdits_of_text (resolves : host.scriptText? name = some text)
    (small : (bytesOf text).length < UInt32.size) (start stop : UInt32) :
    rangeEdits host.view name start stop =
      .ok (TextChange.between start stop (tabChanges text)) := by
  rw [rangeEdits, documentEdits_of_text resolves]
  apply Results.filterM_eq_ok
  intro change member
  rcases List.mem_map.1 member with ⟨place, found, rfl⟩
  exact liesWithin_tabChange small found

end MarkerEngine

namespace Worker

open ParameterType Parameters MarkerEngine

variable {worker : Worker} {store : Store} {name text : String} {start stop : UInt32}
  {options : Json} {changes : List TextChange}

theorem dispatch_formattingEditsForDocument
    (answered : (worker.service store).formattingEditsForDocument name options = .ok changes) :
    ∃ item, Json.ArrayOf TextChange.Describes changes item ∧
      worker.dispatch store "getFormattingEditsForDocument" (.array [.string name, options]) =
        (worker, .ok item) := by
  refine ⟨changesToJson changes, writes_changes changes, ?_⟩
  have reads : ReadsAll [.text, .anything] [.string name, options] (name, options, ()) :=
    ⟨rfl, rfl, trivial⟩
  apply (dispatch_of_takes .formattingEditsForDocument (fun _ => rfl)
    (.map _ (.cons .text (takes_one .anything))) reads).trans
  exact congrArg (fun answer => (worker, written changesToJson answer)) answered

theorem dispatch_formattingEditsForRange
    (answered : (worker.service store).formattingEditsForRange name start stop options =
      .ok changes) :
    ∃ item, Json.ArrayOf TextChange.Describes changes item ∧
      worker.dispatch store "getFormattingEditsForRange"
          (.array [.string name, .ofWord start, .ofWord stop, options]) =
        (worker, .ok item) := by
  refine ⟨changesToJson changes, writes_changes changes, ?_⟩
  have reads : ReadsAll [.text, .word, .word, .anything]
      [.string name, .ofWord start, .ofWord stop, options] (name, start, stop, options, ()) :=
    ⟨rfl, rfl, rfl, rfl, trivial⟩
  apply (dispatch_of_takes .formattingEditsForRange (fun _ => rfl)
    (.map _ (.cons .text (.cons .word (.cons .word (takes_one .anything))))) reads).trans
  exact congrArg (fun answer => (worker, written changesToJson answer)) answered

/-- The changes for a text put four spaces in the place of every tab. Those for a range are the
ones in it. -/
theorem exists_formats_of_markerEngine (marking : worker.engine = markerEngine)
    (resolves : (worker.host store).scriptText? name = some text)
    (small : (Text.bytesOf text).length < UInt32.size) :
    ∃ changes, worker.Formats store name text changes := by
  have service := service_of_markerEngine marking store
  refine ⟨tabChanges text, ?_, ?_, increasing_tabChanges small, disjoint_tabChanges small, ?_, ?_,
    ?_, ?_⟩
  · intro options
    have answered : (worker.service store).formattingEditsForDocument name options =
        .ok (tabChanges text) := service ▸ documentEdits_of_text resolves
    exact ⟨answered, dispatch_formattingEditsForDocument answered⟩
  · intro start stop options
    have answered : (worker.service store).formattingEditsForRange name start stop options =
        .ok (TextChange.between start stop (tabChanges text)) :=
      service ▸ rangeEdits_of_text resolves small start stop
    exact ⟨answered, dispatch_formattingEditsForRange answered⟩
  · intro change member
    rcases List.mem_map.1 member with ⟨place, found, rfl⟩
    exact (stop?_tabChange small found).imp fun _ => And.left
  · rw [Text.length_bytesOf] at small
    exact appliedAll?_tabChange [] text.toList small
  · intro start middle stop
    exact TextChange.between_append_between (fun _ => single_of_mem_tabChanges)
      (increasing_tabChanges small)
  · intro start stop reversed
    exact TextChange.between_of_reversed reversed (tabChanges text)

/-- A worker with an extra file that has tabs on both sides of a longer character. -/
def withTabs : Worker where
  documents := Store.directory
  engine := markerEngine
  libs := .empty
  settings := .empty
  extraLibs := .ofList [("g.d.ts", { content := "\té\tb", version := 1 })]
  inlayHintsOptions := .empty

theorem exists_formats_of_withTabs :
    withTabs.engine = markerEngine ∧
      (withTabs.host .empty).scriptText? "g.d.ts" = some "\té\tb" ∧
      (Text.bytesOf "\té\tb").length < UInt32.size ∧
      Text.expandTabs "\té\tb".toList = "    é    b".toList ∧
      (withTabs.service .empty).formattingEditsForRange "g.d.ts" 1 4294967295 .null =
        .ok [⟨⟨3, 1⟩, "    "⟩] ∧
      ∃ changes, withTabs.Formats .empty "g.d.ts" "\té\tb" changes := by
  have resolves : (withTabs.host .empty).scriptText? "g.d.ts" = some "\té\tb" := by decide +kernel
  have small : (Text.bytesOf "\té\tb").length < UInt32.size := by decide +kernel
  exact ⟨rfl, resolves, small, by decide +kernel, by decide +kernel,
    exists_formats_of_markerEngine rfl resolves small⟩

end Worker

end LanguageWorker
