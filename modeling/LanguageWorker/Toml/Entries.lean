import LanguageWorker.Toml

namespace LanguageWorker.Toml

/-! Tables while a document is being read. How a table came into being decides
what may still be added to it: a header may open a table that exists only
because longer headers passed through it, once; a dotted key may add to tables
made by dotted keys, and on the way to them pass through those that a header
passed through and through the last table of an array. A value given in one
piece is never added to. -/

/-- How a table came into being. -/
inductive Origin where
  | passed
  | dotted
  | opened
  deriving DecidableEq, Repr

/-- An entry under construction: a finished value, a table, or the tables of an
array in the order of their headers, the last one apart. -/
inductive Entry where
  | value (value : Toml)
  | table (origin : Origin) (entries : List (String × Entry))
  | tables (earlier : List (List (String × Entry))) (last : List (String × Entry))

abbrev Entries := List (String × Entry)

/-- Write an entry at a key, at its old place or else at the end. -/
def Entries.put (key : String) (entry : Entry) : Entries → Entries
  | [] => [(key, entry)]
  | other :: rest =>
      if other.1 = key then (key, entry) :: rest else other :: Entries.put key entry rest

/-- Whether a dotted key may pass into a table, at the end of its path or before
that. -/
def Origin.admitsDotted (origin : Origin) (atEnd : Bool) : Bool :=
  origin = .dotted || (origin = .passed && !atEnd)

/-- Change the table at the end of a path, making the tables on the way that do
not exist. `dotted` tells a dotted key from a header. -/
def Entries.within (dotted : Bool) (change : Entries → Except Malformed Entries) :
    List String → Entries → Except Malformed Entries
  | [], entries => change entries
  | key :: path, entries =>
      match entries.lookup key with
      | none => do
          let inner ← Entries.within dotted change path []
          return entries.put key (.table (if dotted then .dotted else .passed) inner)
      | some (.table origin inner) =>
          if dotted && !origin.admitsDotted path.isEmpty then .error (.duplicateKey key)
          else do
            let inner ← Entries.within dotted change path inner
            return entries.put key (.table origin inner)
      | some (.tables earlier last) =>
          if dotted && path.isEmpty then .error (.duplicateKey key)
          else do
            let last ← Entries.within dotted change path last
            return entries.put key (.tables earlier last)
      | some (.value _) => .error (.duplicateKey key)

/-- Write a value at a key that is still free. -/
def Entries.define (key : String) (value : Toml) (entries : Entries) :
    Except Malformed Entries :=
  match entries.lookup key with
  | none => .ok (entries.put key (.value value))
  | some _ => .error (.duplicateKey key)

/-- Open the table that a header names. -/
def Entries.openTable (key : String) (entries : Entries) : Except Malformed Entries :=
  match entries.lookup key with
  | none => .ok (entries.put key (.table .opened []))
  | some (.table .passed inner) => .ok (entries.put key (.table .opened inner))
  | some _ => .error (.duplicateKey key)

/-- Open the next table of the array that a header names. -/
def Entries.openNextTable (key : String) (entries : Entries) : Except Malformed Entries :=
  match entries.lookup key with
  | none => .ok (entries.put key (.tables [] []))
  | some (.tables earlier last) => .ok (entries.put key (.tables (earlier ++ [last]) []))
  | some _ => .error (.duplicateKey key)

mutual

def Entry.finished : Entry → Toml
  | .value value => value
  | .table _ entries => .ofMembers (finishedEntries entries)
  | .tables earlier last =>
      .array (finishedTables earlier ++ [.ofMembers (finishedEntries last)])

def finishedEntries : List (String × Entry) → List (String × Toml)
  | [] => []
  | (key, entry) :: rest => (key, entry.finished) :: finishedEntries rest

def finishedTables : List (List (String × Entry)) → List Toml
  | [] => []
  | entries :: rest => .ofMembers (finishedEntries entries) :: finishedTables rest

end

end LanguageWorker.Toml
