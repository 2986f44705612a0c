import CallProfile.Decimal.Natural
import CallProfile.SortedMap

namespace CallProfile

inductive FileError where
  | missing
  | notDirectory
  | isDirectory
  | nameTooLong
  | nulInName
  | notText
  | other (reason : String) (code : Nat)
deriving DecidableEq

namespace FileError

def systemMessage (reason : String) (code : Nat) : String :=
  reason ++ " (os error " ++ Decimal.natural code ++ ")"

def message : FileError → String
  | missing => systemMessage "No such file or directory" 2
  | notDirectory => systemMessage "Not a directory" 20
  | isDirectory => systemMessage "Is a directory" 21
  | nameTooLong => systemMessage "File name too long" 36
  | nulInName => "file name contained an unexpected NUL byte"
  | notText => "stream did not contain valid UTF-8"
  | other reason code => systemMessage reason code

end FileError

structure Files (m : Type → Type) where
  read : String → m (Except FileError ByteArray)
  write : String → ByteArray → m (Except FileError Unit)

inductive FileStore.Entry where
  | file (content : ByteArray)
  | directory

structure FileStore where
  entries : SortedMap (List String) FileStore.Entry
  workingDirectory : List String

namespace FileStore

def empty : FileStore := ⟨.ofList [(["work"], .directory)], ["work"]⟩

def entry? (store : FileStore) (place : List String) : Option Entry :=
  if place.isEmpty then some .directory else store.entries.get? place

def splitSlashes : List Char → List Char → List String
  | name, [] => [.ofList name.reverse]
  | name, c :: rest =>
    if c = '/' then .ofList name.reverse :: splitSlashes [] rest else splitSlashes (c :: name) rest

def names (path : String) : List String := splitSlashes [] path.toList

def nameLimit : Nat := 255

def pathLimit : Nat := 4095

def enter (store : FileStore) (place : List String) : Except FileError Unit :=
  match store.entry? place with
  | none => .error .missing
  | some (.file _) => .error .notDirectory
  | some .directory => .ok ()

/-- The place to which names lead from another place; nothing need stand there. -/
def walk (store : FileStore) (place : List String) : List String → Except FileError (List String)
  | [] => .ok place
  | name :: rest => do
    store.enter place
    if name = "" ∨ name = "." then walk store place rest
    else if name = ".." then
      -- Above the root is the root.
      store.enter place.dropLast
      walk store place.dropLast rest
    else if nameLimit < name.utf8ByteSize then .error .nameTooLong
    else walk store (place ++ [name]) rest

def checkPath (path : String) : Except FileError Unit :=
  if path.toList.contains '\x00' then .error .nulInName
  else if path = "" then .error .missing
  else if pathLimit < path.utf8ByteSize then .error .nameTooLong
  else .ok ()

def start (store : FileStore) (path : String) : List String :=
  if path.toList.head? = some '/' then [] else store.workingDirectory

def read (store : FileStore) (path : String) : Except FileError ByteArray := do
  checkPath path
  match store.entry? (← store.walk (store.start path) (names path)) with
  | none => .error .missing
  | some .directory => .error .isDirectory
  | some (.file content) => .ok content

def withoutTrailing (names : List String) : List String := (names.reverse.dropWhile (· = "")).reverse

def write (store : FileStore) (path : String) (content : ByteArray) : Except FileError FileStore := do
  checkPath path
  let given := names path
  let trimmed := withoutTrailing given
  let parent ← store.walk (store.start path) trimmed.dropLast
  store.enter parent
  let name := trimmed.getLastD ""
  if trimmed ≠ given ∨ name = "." ∨ name = ".." then .error .isDirectory
  else
    let place ← store.walk parent [name]
    match store.entry? place with
    | some .directory => .error .isDirectory
    | _ => .ok { store with entries := store.entries.insert place (.file content) }

def parents (place : List String) : List (List String) :=
  (List.range place.length).tail.map place.take

def put (store : FileStore) (place : List String) (entry : Entry) : FileStore :=
  { store with entries := (store.entries.insertAll ((parents place).map (·, .directory))).insert place entry }

/-- Files and directories in the working directory. -/
def ofList (entries : List (String × Entry)) : FileStore :=
  entries.foldl
    (fun store entry => store.put (store.workingDirectory ++ (names entry.1).filter (· ≠ ".")) entry.2) empty

def files : Files (StateM FileStore) where
  read path := do return (← get).read path
  write path content := do
    match (← get).write path content with
    | .error error => return .error error
    | .ok store => do
      set store
      return .ok ()

end FileStore

end CallProfile
