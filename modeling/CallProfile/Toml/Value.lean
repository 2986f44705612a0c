namespace CallProfile.Toml

inductive Origin where
  | header
  | implied
  | dotted
  | braces
deriving DecidableEq

inductive Value where
  | text (content : String)
  | boolean (flag : Bool)
  | integer (number : Int)
  | real (number : Float)
  | moment (spelling : String)
  | list (items : List Value)
  | table (origin : Origin) (entries : List (String × Value))
  | rows (earlier : List (List (String × Value))) (last : List (String × Value))

abbrev Entries := List (String × Value)

structure Table where
  origin : Origin
  entries : Entries

structure Key where
  path : List String
  name : String

namespace Key

def names (key : Key) : List String := key.path ++ [key.name]

end Key

def Entries.put (name : String) (value : Value) : Entries → Entries
  | [] => [(name, value)]
  | entry :: rest => if entry.1 = name then (name, value) :: rest else entry :: put name value rest

namespace Table

def put (table : Table) (name : String) (value : Value) : Table :=
  { table with entries := Entries.put name value table.entries }

def find? (table : Table) (name : String) : Option Value := table.entries.lookup name

/--
Changes the table at the end of a path, of whose tables the missing ones are created. A path of dotted
keys does not lead through tables that have a header.
-/
def changeAt (dotted : Bool) (change : Table → Option Table) : List String → Table → Option Table
  | [], table => change table
  | name :: path, table =>
    match table.find? name with
    | none => do
      let inner ← changeAt dotted change path ⟨if dotted then .dotted else .implied, []⟩
      return table.put name (.table inner.origin inner.entries)
    | some (.table origin entries) =>
      if origin = .braces ∨ (dotted ∧ origin = .header) then none
      else do
        let inner ← changeAt dotted change path ⟨origin, entries⟩
        return table.put name (.table inner.origin inner.entries)
    | some (.rows earlier last) => do
      let inner ← changeAt dotted change path ⟨.header, last⟩
      return table.put name (.rows earlier inner.entries)
    | some _ => none

def addNew (name : String) (value : Value) (table : Table) : Option Table :=
  match table.find? name with
  | some _ => none
  | none => some (table.put name value)

def addEntry (key : Key) (value : Value) (table : Table) : Option Table :=
  table.changeAt true
    (fun inner => if key.path ≠ [] ∧ inner.origin ≠ .dotted then none else addNew key.name value inner) key.path

def addHeader (key : Key) (table : Table) : Option Table :=
  table.changeAt false
    (fun parent => match parent.find? key.name with
      | none => some (parent.put key.name (.table .header []))
      | some (.table .implied entries) => some (parent.put key.name (.table .header entries))
      | some _ => none)
    key.path

def addRow (key : Key) (table : Table) : Option Table :=
  table.changeAt false
    (fun parent => match parent.find? key.name with
      | none => some (parent.put key.name (.rows [] []))
      | some (.rows earlier last) => some (parent.put key.name (.rows (earlier ++ [last]) []))
      | some _ => none)
    key.path

def ofEntries (entries : List (Key × Value)) : Option Value := do
  let table ← entries.foldlM (fun table entry => addEntry entry.1 entry.2 table) ⟨.braces, []⟩
  return .table .braces table.entries

end Table

inductive Line where
  | entry (key : Key) (value : Value)
  | header (key : Key)
  | row (key : Key)

structure Draft where
  root : Table
  current : List String

namespace Draft

def empty : Draft := ⟨⟨.header, []⟩, []⟩

def addLine (draft : Draft) : Line → Option Draft
  | .entry key value => do
    return { draft with root := ← draft.root.changeAt false (Table.addEntry key value) draft.current }
  | .header key => do return ⟨← draft.root.addHeader key, key.names⟩
  | .row key => do return ⟨← draft.root.addRow key, key.names⟩

end Draft

def Entries.ofLines (lines : List Line) : Option Entries := do
  return (← lines.foldlM Draft.addLine .empty).root.entries

end CallProfile.Toml
