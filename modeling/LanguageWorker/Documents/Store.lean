import LanguageWorker.Documents.Directory
import LanguageWorker.OrderedMap

namespace LanguageWorker

/-! The store in which the editor keeps open documents up to date.

Every opening of a document takes a new cell, and the store lists, in the order
of opening, which cell stands for which URI. A cell is the handle of a document:
whoever keeps it sees the updates of that document, and after the document has
been closed or opened anew the cell stays as it was. -/

/-- The cell of a document. -/
abbrev Handle := Nat

structure Store where
  cells : Array Document
  listing : OrderedMap Handle
  listed_uri : ∀ entry ∈ listing.entries, (cells[entry.2]?).map Document.uri = some entry.1

namespace Store

def empty : Store := ⟨#[], .empty, by simp [OrderedMap.empty]⟩

instance : Inhabited Store := ⟨empty⟩

/-- What a handle shows. -/
def read? (store : Store) (handle : Handle) : Option Document := store.cells[handle]?

/-- The handle of an open document. -/
def handle? (store : Store) (uri : String) : Option Handle := store.listing.get? uri

/-- The open document of a URI. -/
def get? (store : Store) (uri : String) : Option Document :=
  store.handle? uri >>= store.read?

/-- The open documents in the order of their opening. -/
def models (store : Store) : List Document := store.listing.values.filterMap store.read?

def size (store : Store) : Nat := store.listing.size

def isEmpty (store : Store) : Bool := store.listing.isEmpty

/-- The store as a worker sees it. -/
def directory (store : Store) : Directory := ⟨store.models, store.get?⟩

/-- Open a document, or open it anew. A document that is open already keeps its
place in the listing, but not its cell. -/
def openDocument (store : Store) (uri text : String) (version : Int32) : Store where
  cells := store.cells.push { uri, version, text }
  listing := store.listing.insert uri store.cells.size
  listed_uri := by
    intro entry member
    rcases OrderedMap.mem_put member with written | kept
    · simp [written]
    · have listed := store.listed_uri entry kept
      have inside : entry.2 < store.cells.size := by
        rw [Option.map_eq_some_iff] at listed
        obtain ⟨document, found, _⟩ := listed
        exact (Array.getElem?_eq_some_iff.1 found).1
      rwa [Array.getElem?_push_lt inside, ← Array.getElem?_eq_getElem inside]

/-- Write the text and version of a cell. -/
def write (store : Store) (handle : Handle) (text : String) (version : Int32) : Store where
  cells := store.cells.modify handle fun document => { document with text, version }
  listing := store.listing
  listed_uri := by
    intro entry member
    have listed := store.listed_uri entry member
    rw [Array.getElem?_modify]
    split
    · rw [Option.map_map]
      simpa [Function.comp_def] using listed
    · exact listed

/-- What became of an update. -/
inductive UpdateOutcome where
  /-- No document of that URI is open. -/
  | notOpen
  | updated (version : Int32)
  /-- The document had the last version there is; its text has been replaced. -/
  | versionsExhausted
  deriving DecidableEq, Repr

/-- The version after a given one. -/
def nextVersion? (version : Int32) : Option Int32 :=
  if version = Int32.maxValue then none else some (version + 1)

/-- Replace the whole text of an open document and count its version up. -/
def updateDocument (store : Store) (uri text : String) : Store × UpdateOutcome :=
  match store.handle? uri with
  | none => (store, .notOpen)
  | some handle =>
      match store.read? handle with
      | none => (store, .notOpen)
      | some document =>
          match nextVersion? document.version with
          | none => (store.write handle text document.version, .versionsExhausted)
          | some version => (store.write handle text version, .updated version)

/-- Close a document; tells whether it was open. -/
def closeDocument (store : Store) (uri : String) : Store × Bool :=
  ({ cells := store.cells
     listing := store.listing.erase uri
     listed_uri := fun entry member =>
       store.listed_uri entry (List.mem_filter.1 member).1 },
   store.listing.contains uri)

end Store

end LanguageWorker
