namespace LanguageWorker

/-! Open documents, and how a worker gets to see them. The listing and the look-up are
given apart, because a store answers a look-up without going through its listing. -/

/-- An open document as the editor last showed it. -/
structure Document where
  uri : String
  version : Int32
  text : String
  deriving DecidableEq, Repr

/-- The open documents as a worker sees them: their listing, and the look-up of
one by its URI. -/
structure Directory where
  models : List Document
  model? : String → Option Document

namespace Directory

/-- The first document of a list with the given URI. -/
def firstOf (documents : List Document) (uri : String) : Option Document :=
  documents.find? fun document => document.uri == uri

/-- The directory of a fixed list of documents. -/
def ofList (documents : List Document) : Directory :=
  ⟨documents, firstOf documents⟩

end Directory

end LanguageWorker
