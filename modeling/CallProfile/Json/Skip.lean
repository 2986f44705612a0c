import CallProfile.Json.Reader

namespace CallProfile.Json.Reader

def skipEscape : Reader Unit := do
  match ← look with
  | none => failHere .endInText
  | some .stray => failAhead .invalidEscape
  | some (.char letter) =>
    if letter = 'u' then do
      advance
      let _ ← hexUnit
    else if (letterEscape? letter).isSome then advance
    else failAhead .invalidEscape

def skipTextFrom : Nat → Reader Unit
  | 0 => failHere .endInText
  | steps + 1 => do
    match ← look with
    | none => failHere .endInText
    | some (.char '"') => advance
    | some (.char '\\') => do
      advance
      skipEscape
      skipTextFrom steps
    | some symbol =>
      if symbol.isControl then failHere .controlCharacter
      else do
        advance
        skipTextFrom steps

def skipText : Reader Unit := withSteps skipTextFrom

def skipExponent : Reader Unit := do
  advance
  let _ ← exponentSign
  let run ← span Symbol.isDigit
  if run.isEmpty then failAhead .invalidNumber else return ()

def skipWholeDigits : Reader Unit := do
  match ← look with
  | some (.char '0') => do
    advance
    match ← look with
    | some symbol => if symbol.isDigit then failAhead .invalidNumber else return ()
    | none => return ()
  | _ => do
    let run ← span Symbol.isDigit
    if run.isEmpty then failAhead .invalidNumber else return ()

def skipNumber : Reader Unit := do
  skipWholeDigits
  match ← look with
  | some (.char '.') => do
    advance
    let fraction ← span Symbol.isDigit
    if fraction.isEmpty then failAhead .invalidNumber
    else if ← atExponent then skipExponent else return ()
  | _ => if ← atExponent then skipExponent else return ()

def skipPlain : Reader Unit := do
  match ← look with
  | some (.char 'n') => do
    advance
    word ['u', 'l', 'l']
  | some (.char 't') => do
    advance
    word ['r', 'u', 'e']
  | some (.char 'f') => do
    advance
    word ['a', 'l', 's', 'e']
  | some (.char '"') => do
    advance
    skipText
  | some (.char '-') => do
    advance
    skipNumber
  | some symbol => if symbol.isDigit then skipNumber else failAhead .expectedValue
  | none => failAhead .endInValue

inductive Bracket where
  | list
  | record

def skipKey : Reader Unit := do
  match ← lookPastSpace with
  | none => failAhead .endInRecord
  | some (.char '"') => do
    advance
    skipText
    colon
  | some _ => failAhead .keyNotText

def closes (bracket : Bracket) : Reader Bool := do
  match ← lookPastSpace, bracket with
  | none, .list => failAhead .endInList
  | none, .record => failAhead .endInRecord
  | some symbol, .list => return symbol = .char ']'
  | some symbol, .record => return symbol = .char '}'

/-- What comes next while a value is passed over: a value, or what follows one. -/
inductive Ahead where
  | value
  | follow

def skipFrom : Nat → Ahead → List Bracket → Reader Unit
  | 0, _, _ => failAhead .endInValue
  | steps + 1, .value, around => do
    match ← lookPastSpace with
    | some (.char '[') => do
      advance
      if ← closes .list then skipFrom steps .follow (.list :: around)
      else skipFrom steps .value (.list :: around)
    | some (.char '{') => do
      advance
      if ← closes .record then skipFrom steps .follow (.record :: around)
      else do
        skipKey
        skipFrom steps .value (.record :: around)
    | _ => do
      skipPlain
      skipFrom steps .follow around
  | _ + 1, .follow, [] => return ()
  | steps + 1, .follow, bracket :: around => do
    if ← closes bracket then do
      advance
      skipFrom steps .follow around
    else match ← look, bracket with
      | some (.char ','), .list => do
        advance
        skipFrom steps .value (.list :: around)
      | some (.char ','), .record => do
        advance
        skipKey
        skipFrom steps .value (.record :: around)
      | _, .list => failAhead .expectedListEnd
      | _, .record => failAhead .expectedRecordEnd

def skip : Reader Unit := fun cursor => skipFrom (2 * cursor.rest.length + 2) .value [] cursor

def valueOf (list record : Reader Found) : Reader Found := placed do
  match ← lookPastSpace with
  | none => failAhead .endInValue
  | some (.char '[') => list
  | some (.char '{') => record
  | some (.char 'n') => do
    advance
    word ['u', 'l', 'l']
    return .null
  | some (.char 't') => do
    advance
    word ['r', 'u', 'e']
    return .boolean true
  | some (.char 'f') => do
    advance
    word ['a', 'l', 's', 'e']
    return .boolean false
  | some (.char '"') => do
    advance
    return .text (← textBody)
  | some (.char '-') => do
    advance
    return (← number true).found
  | some symbol => if symbol.isDigit then return (← number false).found else failAhead .expectedValue

def anyValue : Nat → Reader Found
  | 0 => valueOf (failAhead .tooDeep) (failAhead .tooDeep)
  | room + 1 =>
    valueOf
      (do
        advance
        let _ ← closedBy endOfList (items (anyValue room))
        return .list)
      (do
        advance
        let entry (_ : String) (_ : Unit) : Reader Unit := do
          colon
          let _ ← anyValue room
        closedBy endOfRecord (entries entry ())
        return .record)

end CallProfile.Json.Reader
