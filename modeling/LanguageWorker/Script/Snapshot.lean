import LanguageWorker.Text.Bytes

namespace LanguageWorker

/-! Frozen texts. The engine cuts pieces out of them by byte offsets. -/

/-- The text of a file as it was when it was asked for. -/
structure Snapshot where
  text : String
  deriving DecidableEq, Repr

namespace Snapshot

/-- The length in bytes. -/
def length (snapshot : Snapshot) : Nat := Text.byteLength snapshot.text.toList

/-- The text between two byte offsets, which are brought within the text and into
order. There is none where an offset lies inside a character. -/
def getText? (snapshot : Snapshot) (start stop : Nat) : Option String :=
  let start := min start snapshot.length
  let stop := min stop snapshot.length
  (Text.slice? snapshot.text.toList (min start stop) (max start stop)).map String.ofList

/-- The range in which a file differs from an earlier snapshot. Snapshots do not
know what changed, so the engine always reads the whole file again. -/
def changeRange? (_snapshot _earlier : Snapshot) : Option (Nat × Nat) := none

example : (Snapshot.mk "aéb").getText? 9 1 = some "éb" := by decide
example : (Snapshot.mk "aéb").getText? 2 2 = none := by decide

end Snapshot

end LanguageWorker
