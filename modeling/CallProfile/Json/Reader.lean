import CallProfile.Json.Cursor

namespace CallProfile.Json

abbrev Reader := EStateM Fault Cursor

namespace Reader

variable {α : Type}

def failHere (cause : Cause) : Reader α := fun cursor => .error ⟨cause, some cursor.reached⟩ cursor

def failAhead (cause : Cause) : Reader α := fun cursor => .error ⟨cause, some cursor.ahead⟩ cursor

def failUnplaced (cause : Cause) : Reader α := throw ⟨cause, none⟩

/-- Stops with a message; a message that ends with a position brings its place along. -/
def refuse (message : String) : Reader α := throw (Fault.ofMessage message)

def placed (body : Reader α) : Reader α := fun cursor =>
  match body cursor with
  | .ok value cursor => .ok value cursor
  | .error fault cursor => .error { fault with position := fault.position.or (some cursor.reached) } cursor

def look : Reader (Option Symbol) := fun cursor => .ok cursor.rest.head? { cursor with looked := true }

def advance : Reader Unit := fun cursor => .ok () cursor.next

def span (condition : Symbol → Bool) : Reader (List Symbol) := fun cursor =>
  .ok (cursor.span condition).1 (cursor.span condition).2

def lookPastSpace : Reader (Option Symbol) := do
  let _ ← span Symbol.isSpace
  look

/-- Runs a reader with as many steps as the rest of the text has symbols, and one more. -/
def withSteps (body : Nat → Reader α) : Reader α := fun cursor => body (cursor.rest.length + 1) cursor

def word : List Char → Reader Unit
  | [] => pure ()
  | letter :: rest => do
    match ← look with
    | none => failHere .endInValue
    | some symbol =>
      if symbol = .char letter then do
        advance
        word rest
      else failAhead .expectedWord

def hexValue? (c : Char) : Option Nat :=
  if c.isDigit then some (c.toNat - '0'.toNat)
  else if 'a' ≤ c ∧ c ≤ 'f' then some (c.toNat - 'a'.toNat + 10)
  else if 'A' ≤ c ∧ c ≤ 'F' then some (c.toNat - 'A'.toNat + 10)
  else none

def hexUnit? : List Symbol → Option Nat
  | .char a :: .char b :: .char c :: .char d :: _ => do
    return (← hexValue? a) * 4096 + (← hexValue? b) * 256 + (← hexValue? c) * 16 + (← hexValue? d)
  | _ => none

def hexUnit : Reader Nat := fun cursor =>
  match hexUnit? cursor.rest with
  | some unit => .ok unit cursor.next.next.next.next
  | none =>
    match cursor.position.afterBytes 4 cursor.rest with
    | some position => .error ⟨.invalidEscape, some position⟩ cursor
    | none => .error ⟨.endInText, some (cursor.rest.foldl Position.after cursor.position)⟩ cursor

def isTrailing (unit : Nat) : Bool := 0xDC00 ≤ unit && unit ≤ 0xDFFF

def isLeading (unit : Nat) : Bool := 0xD800 ≤ unit && unit ≤ 0xDBFF

def surrogateMark (mark : Char) : Reader Unit := do
  match ← look with
  | none => failHere .endInText
  | some symbol => if symbol = .char mark then advance else failAhead .unfinishedSurrogate

def numericEscape : Reader Char := do
  let unit ← hexUnit
  if isTrailing unit then failHere .loneSurrogate
  else if isLeading unit then do
    surrogateMark '\\'
    surrogateMark 'u'
    let second ← hexUnit
    if isTrailing second then return .ofNat (0x10000 + (unit - 0xD800) * 0x400 + (second - 0xDC00))
    else failHere .loneSurrogate
  else return .ofNat unit

def letterEscape? (letter : Char) : Option Char :=
  if letter = '"' ∨ letter = '\\' ∨ letter = '/' then some letter
  else if letter = 'b' then some '\x08'
  else if letter = 'f' then some '\x0c'
  else if letter = 'n' then some '\n'
  else if letter = 'r' then some '\r'
  else if letter = 't' then some '\t'
  else none

def escape : Reader Char := do
  match ← look with
  | none => failHere .endInText
  | some .stray => failAhead .invalidEscape
  | some (.char letter) =>
    if letter = 'u' then do
      advance
      numericEscape
    else match letterEscape? letter with
      | some c => do
        advance
        return c
      | none => failAhead .invalidEscape

/--
The characters up to the closing quote, put before those in `before`, which are held in reverse. A byte
that is no character is a fault of the whole text, found at its end; `stray` is the place of the first.
-/
def textFrom : Nat → Option Position → List Char → Reader String
  | 0, _, _ => failHere .endInText
  | steps + 1, stray, before => do
    match ← look with
    | none => failHere .endInText
    | some (.char '"') => do
      advance
      match stray with
      | none => return .ofList before.reverse
      | some position => throw ⟨.invalidCharacter, some position⟩
    | some (.char '\\') => do
      advance
      let c ← escape
      textFrom steps stray (c :: before)
    | some (.char c) =>
      if c < ' ' then failAhead .controlCharacter
      else do
        advance
        textFrom steps stray (c :: before)
    | some .stray => do
      advance
      let cursor ← get
      textFrom steps (stray.or (some cursor.position)) before

def textBody : Reader String := withSteps fun steps => textFrom steps none []

inductive Number where
  | natural (number : Nat)
  | negative (size : Nat)
  | real (number : Float)

def Number.found : Number → Found
  | natural number => .natural number
  | negative size => .negative size
  | real number => .real number

def naturalLimit : Nat := UInt64.size - 1

def negativeLimit : Nat := Int64.size / 2

def finite (negative : Bool) (significand : Nat) (exponent : Int) : Reader Number :=
  let number := Decimal.nearest negative significand exponent
  if number.isFinite then return .real number else failHere .numberOutOfRange

def whole (negative : Bool) (size : Nat) : Reader Number :=
  if negative then
    if 0 < size ∧ size ≤ negativeLimit then return .negative size else finite true size 0
  else if size ≤ naturalLimit then return .natural size
  else finite false size 0

def digitRun : Reader (List Char) := do
  let run ← span Symbol.isDigit
  return run.filterMap fun symbol => match symbol with
    | .char c => some c
    | .stray => none

def exponentLimit : Nat := Int32.size / 2 - 1

def exponentFrom : Nat → Nat → Reader (Option Nat)
  | 0, exponent => pure (some exponent)
  | steps + 1, exponent => do
    match ← look with
    | some (.char c) =>
      if c.isDigit then do
        advance
        let exponent := 10 * exponent + Decimal.digitValue c
        if exponentLimit < exponent then pure none else exponentFrom steps exponent
      else pure (some exponent)
    | _ => pure (some exponent)

def exponentSign : Reader Bool := do
  match ← look with
  | some (.char '+') => do
    advance
    return false
  | some (.char '-') => do
    advance
    return true
  | _ => return false

def withExponent (negative : Bool) (significand : Nat) (shift : Nat) : Reader Number := do
  advance
  let below ← exponentSign
  match ← look with
  | none => failHere .endInValue
  | some symbol =>
    if symbol.isDigit then do
      match ← withSteps fun steps => exponentFrom steps 0 with
      | some exponent =>
        finite negative significand ((if below then -(exponent : Int) else exponent) - shift)
      | none =>
        if significand ≠ 0 ∧ !below then failHere .numberOutOfRange
        else do
          let _ ← span Symbol.isDigit
          return .real (if negative then -0.0 else 0.0)
    else failAhead .invalidNumber

def wholeDigits : Reader (List Char) := do
  match ← look with
  | none => failHere .endInValue
  | some (.char '0') => do
    advance
    match ← look with
    | some symbol => if symbol.isDigit then failAhead .invalidNumber else return ['0']
    | none => return ['0']
  | some symbol => if symbol.isDigit then digitRun else failAhead .invalidNumber

def atExponent : Reader Bool := do
  match ← look with
  | some (.char c) => return c = 'e' || c = 'E'
  | _ => return false

def number (negative : Bool) : Reader Number := do
  let run ← wholeDigits
  match ← look with
  | some (.char '.') => do
    advance
    let fraction ← digitRun
    if fraction.isEmpty then
      match ← look with
      | none => failAhead .endInValue
      | some _ => failAhead .invalidNumber
    else if ← atExponent then withExponent negative (Decimal.value (run ++ fraction)) fraction.length
    else finite negative (Decimal.value (run ++ fraction)) (-(fraction.length : Int))
  | _ =>
    if ← atExponent then withExponent negative (Decimal.value run) 0 else whole negative (Decimal.value run)

def mismatch (expected : String) : Reader α := placed do
  match ← look with
  | some (.char '[') => failUnplaced (.wrongType .list expected)
  | some (.char '{') => failUnplaced (.wrongType .record expected)
  | some (.char 'n') => do
    advance
    word ['u', 'l', 'l']
    failUnplaced (.wrongType .null expected)
  | some (.char 't') => do
    advance
    word ['r', 'u', 'e']
    failUnplaced (.wrongType (.boolean true) expected)
  | some (.char 'f') => do
    advance
    word ['a', 'l', 's', 'e']
    failUnplaced (.wrongType (.boolean false) expected)
  | some (.char '"') => do
    advance
    let content ← textBody
    failUnplaced (.wrongType (.text content) expected)
  | some (.char '-') => do
    advance
    let number ← number true
    failUnplaced (.wrongType number.found expected)
  | some symbol =>
    if symbol.isDigit then do
      let number ← number false
      failUnplaced (.wrongType number.found expected)
    else failAhead .expectedValue
  | none => failAhead .expectedValue

def number? : Reader (Option Number) := do
  match ← lookPastSpace with
  | none => failAhead .endInValue
  | some (.char '-') => do
    advance
    return some (← number true)
  | some symbol => if symbol.isDigit then return some (← number false) else return none

def natural (expected : String) (limit : Nat) : Reader Nat := placed do
  match ← number? with
  | none => mismatch expected
  | some (.natural number) =>
    if number ≤ limit then return number else failUnplaced (.wrongValue (.natural number) expected)
  | some (.negative size) => failUnplaced (.wrongValue (.negative size) expected)
  | some (.real number) => failUnplaced (.wrongType (.real number) expected)

def natural64 : Reader Nat := natural "u64" (UInt64.size - 1)

def natural32 : Reader Nat := natural "u32" (UInt32.size - 1)

def Number.toFloat : Number → Float
  | natural number => Decimal.nearest false number 0
  | negative size => Decimal.nearest true size 0
  | real number => number

def real : Reader Float := placed do
  match ← number? with
  | none => mismatch "f64"
  | some number => return number.toFloat

def text (expected : String) : Reader String := placed do
  match ← lookPastSpace with
  | none => failAhead .endInValue
  | some (.char '"') => do
    advance
    textBody
  | some _ => mismatch expected

def moreItems (first : Bool) : Reader Bool := do
  match ← lookPastSpace with
  | none => failAhead .endInList
  | some (.char ']') => return false
  | some symbol =>
    if first then return true
    else if symbol = .char ',' then do
      advance
      match ← lookPastSpace with
      | none => failAhead .endInValue
      | some (.char ']') => failAhead .trailingComma
      | some _ => return true
    else failAhead .expectedListEnd

def moreEntries (first : Bool) : Reader Bool := do
  match ← lookPastSpace with
  | none => failAhead .endInRecord
  | some (.char '}') => return false
  | some symbol =>
    if first then if symbol = .char '"' then return true else failAhead .keyNotText
    else if symbol = .char ',' then do
      advance
      match ← lookPastSpace with
      | none => failAhead .endInValue
      | some (.char '"') => return true
      | some (.char '}') => failAhead .trailingComma
      | some _ => failAhead .keyNotText
    else failAhead .expectedRecordEnd

def key : Reader String := do
  advance
  textBody

def colon : Reader Unit := do
  match ← lookPastSpace with
  | none => failAhead .endInRecord
  | some symbol => if symbol = .char ':' then advance else failAhead .expectedColon

def endOfList : Reader Unit := do
  match ← lookPastSpace with
  | none => failAhead .endInList
  | some (.char ']') => advance
  | some (.char ',') => do
    advance
    match ← lookPastSpace with
    | some (.char ']') => failAhead .trailingComma
    | _ => failAhead .trailingCharacters
  | some _ => failAhead .trailingCharacters

def endOfRecord : Reader Unit := do
  match ← lookPastSpace with
  | none => failAhead .endInRecord
  | some (.char '}') => advance
  | some (.char ',') => failAhead .trailingComma
  | some _ => failAhead .trailingCharacters

/-- Reads what stands in brackets. The closing bracket is looked for even behind a fault. -/
def closedBy (close : Reader Unit) (body : Reader α) : Reader α := fun cursor =>
  match body cursor with
  | .ok value cursor =>
    match close cursor with
    | .ok _ cursor => .ok value cursor
    | .error fault cursor => .error fault cursor
  | .error fault cursor =>
    match close cursor with
    | .ok _ cursor => .error fault cursor
    | .error _ cursor => .error fault cursor

structure Brackets (α : Type) where
  expected : String
  list : Option (Nat → Reader α)
  record : Option (Nat → Reader α)

def nested (close : Reader Unit) (room : Nat) (body : Nat → Reader α) : Reader α :=
  match room with
  | 0 => failAhead .tooDeep
  | room + 1 => do
    advance
    closedBy close (body room)

def brackets (shape : Brackets α) (room : Nat) : Reader α := placed do
  match ← lookPastSpace with
  | none => failAhead .endInValue
  | some symbol =>
    match symbol, shape.list, shape.record with
    | .char '[', some body, _ => nested endOfList room body
    | .char '{', _, some body => nested endOfRecord room body
    | _, _, _ => mismatch shape.expected

def itemsFrom (item : Reader α) : Nat → Bool → Reader (List α)
  | 0, _ => failAhead .endInList
  | steps + 1, first => do
    if ← moreItems first then
      let value ← item
      return value :: (← itemsFrom item steps false)
    else return []

def items (item : Reader α) : Reader (List α) := withSteps fun steps => itemsFrom item steps true

def entriesFrom (entry : String → α → Reader α) : Nat → Bool → α → Reader α
  | 0, _, _ => failAhead .endInRecord
  | steps + 1, first, state => do
    if ← moreEntries first then
      let name ← key
      let state ← entry name state
      entriesFrom entry steps false state
    else return state

def entries (entry : String → α → Reader α) (state : α) : Reader α :=
  withSteps fun steps => entriesFrom entry steps true state

def list (item : Nat → Reader α) (room : Nat) : Reader (List α) :=
  brackets ⟨"a sequence", some fun room => items (item room), none⟩ room

def itemAt (index : Nat) (expected : String) (item : Reader α) : Reader α := do
  if ← moreItems (index = 0) then item else failUnplaced (.wrongLength index expected)

def required (name : String) (field : Option α) : Reader α :=
  match field with
  | some value => return value
  | none => failUnplaced (.missingField name)

def once (name : String) (field : Option α) (body : Reader α) : Reader (Option α) :=
  match field with
  | some _ => failUnplaced (.repeatedField name)
  | none => do
    colon
    return some (← body)

def run (body : Reader α) (source : Source) (symbols : List Symbol) : Except Fault α :=
  let whole : Reader α := do
    let value ← body
    match ← lookPastSpace with
    | none => return value
    | some _ => failAhead .trailingCharacters
  match whole (.start source symbols) with
  | .ok value _ => .ok value
  | .error fault _ => .error fault

end Reader

end CallProfile.Json
