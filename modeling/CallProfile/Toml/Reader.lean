import CallProfile.Decimal.Binary64
import CallProfile.Toml.Value

namespace CallProfile.Toml

abbrev Reader := StateT (List Char) Option

namespace Reader

variable {α : Type}

def look : Reader (Option Char) := do return (← get).head?

def ahead (mark : List Char) : Reader Bool := do return mark.isPrefixOf (← get)

def take? (mark : List Char) : Reader Bool := do
  let text ← get
  if mark.isPrefixOf text then do
    set (text.drop mark.length)
    return true
  else return false

def take (mark : List Char) : Reader Unit := do if ← take? mark then return () else failure

def takeOneOf? (choices : List Char) : Reader Bool := do
  match ← get with
  | c :: text =>
    if choices.contains c then do
      set text
      return true
    else return false
  | [] => return false

def next : Reader Char := do
  match ← get with
  | [] => failure
  | c :: rest => do
    set rest
    return c

def span (condition : Char → Bool) : Reader (List Char) := do
  let text ← get
  set (text.dropWhile condition)
  return text.takeWhile condition

def spanSome (condition : Char → Bool) : Reader (List Char) := do
  let run ← span condition
  if run.isEmpty then failure else return run

def manyFrom (item : Reader (Option α)) : Nat → Reader (List α)
  | 0 => failure
  | steps + 1 => do
    match ← item with
    | none => return []
    | some value => return value :: (← manyFrom item steps)

/-- What a reader takes until it has no more to give; whatever it gives takes a character at least. -/
def many (item : Reader (Option α)) : Reader (List α) := do manyFrom item ((← get).length + 1)

def isBlank (c : Char) : Bool := c = ' ' || c = '\t'

def isPlain (c : Char) : Bool := c = '\t' || (' ' ≤ c && c ≠ '\x7f')

def blanks : Reader Unit := do
  let _ ← span isBlank

def newline? : Reader Bool := do if ← take? ['\n'] then return true else take? ['\r', '\n']

def comment? : Reader Bool := do
  if ← take? ['#'] then do
    let _ ← span isPlain
    return true
  else return false

def gapPiece (comments : Bool) : Reader (Option Unit) := do
  if !(← spanned) then
    if !(← newline?) then
      if !comments then return none
      else if !(← comment?) then return none
  return some ()
where
  spanned : Reader Bool := do return !(← span isBlank).isEmpty

def emptyLines : Reader Unit := do
  let _ ← many (gapPiece false)

def gap : Reader Unit := do
  let _ ← many (gapPiece true)

def endOfLine : Reader Unit := do
  blanks
  let _ ← comment?
  match ← look with
  | none => return ()
  | some _ => if ← newline? then return () else failure

def hexValue? (c : Char) : Option Nat :=
  if c.isDigit then some (c.toNat - '0'.toNat)
  else if 'a' ≤ c ∧ c ≤ 'f' then some (c.toNat - 'a'.toNat + 10)
  else if 'A' ≤ c ∧ c ≤ 'F' then some (c.toNat - 'A'.toNat + 10)
  else none

def hexNumber : Nat → Nat → Reader Nat
  | 0, value => return value
  | count + 1, value => do
    match hexValue? (← next) with
    | some digit => hexNumber count (16 * value + digit)
    | none => failure

def codePoint (digits : Nat) : Reader Char := do
  let number ← hexNumber digits 0
  if number.isValidChar then return .ofNat number else failure

def escape : Reader Char := do
  match ← next with
  | 'b' => return '\x08'
  | 't' => return '\t'
  | 'n' => return '\n'
  | 'f' => return '\x0c'
  | 'r' => return '\r'
  | '"' => return '"'
  | '\\' => return '\\'
  | 'u' => codePoint 4
  | 'U' => codePoint 8
  | _ => failure

def textPiece (quote : Char) (escapes : Bool) : Reader (Option Char) := do
  let c ← next
  if c = quote then return none
  else if escapes ∧ c = '\\' then return some (← escape)
  else if isPlain c then return some c
  else failure

def shortText (quote : Char) (escapes : Bool) : Reader String := do
  return .ofList (← many (textPiece quote escapes))

def atLineBreak : Reader Bool := do
  match (← get).dropWhile isBlank with
  | '\n' :: _ => return true
  | '\r' :: '\n' :: _ => return true
  | _ => return false

def longTextPiece (quote : Char) (escapes : Bool) : Reader (Option (List Char)) := do
  if ← ahead [quote, quote, quote] then return none
  else if ← newline? then return some ['\n']
  else do
    let c ← next
    if escapes ∧ c = '\\' then
      if ← atLineBreak then do
        emptyLines
        return some []
      else return some [← escape]
    else if isPlain c then return some [c]
    else failure

def fewQuotes (quote : Char) : Reader (List Char) := do
  if ← take? [quote, quote] then return [quote, quote]
  else if ← take? [quote] then return [quote]
  else return []

/--
A text over several lines, behind its opening quotes. A newline right behind those does not count, and
up to two quotes right before the closing ones belong to the text.
-/
def longText (quote : Char) (escapes : Bool) : Reader String := do
  let _ ← newline?
  let pieces ← many (longTextPiece quote escapes)
  take [quote, quote, quote]
  return .ofList (pieces.flatten ++ (← fewQuotes quote))

def text (quote : Char) : Reader String := do
  let escapes := quote = '"'
  if ← take? [quote, quote, quote] then longText quote escapes
  else do
    take [quote]
    shortText quote escapes

def isKeyChar (c : Char) : Bool := c.isAlphanum || c = '_' || c = '-'

def simpleKey : Reader String := do
  if ← take? ['"'] then shortText '"' true
  else if ← take? ['\''] then shortText '\'' false
  else return .ofList (← spanSome isKeyChar)

def nestingLimit : Nat := 80

def key : Reader Key := do
  blanks
  let first ← simpleKey
  blanks
  let others ← many do
    if ← take? ['.'] then do
      blanks
      let name ← simpleKey
      blanks
      return some name
    else return none
  let names := first :: others
  if names.length < nestingLimit then return ⟨names.dropLast, names.getLast (List.cons_ne_nil _ _)⟩
  else failure

def digitsFrom (isDigit : Char → Bool) : Reader (List Char) := do
  let first ← spanSome isDigit
  let others ← many do
    if ← take? ['_'] then return some (← spanSome isDigit) else return none
  return first ++ others.flatten

def sign? : Reader (Option Bool) := do
  if ← take? ['-'] then return some true
  else if ← take? ['+'] then return some false
  else return none

def valueIn (base : Nat) (run : List Char) : Nat :=
  run.foldl (fun total c => base * total + (hexValue? c).getD 0) 0

def wholeLimit : Nat := Int64.size / 2

def integerOf (negative : Bool) (size : Nat) : Reader Value :=
  if size < wholeLimit ∨ (negative ∧ size = wholeLimit) then
    return .integer (if negative then -(size : Int) else size)
  else failure

def based (base : Nat) : Reader Value := do
  let run ← digitsFrom fun c => match hexValue? c with
    | some digit => digit < base
    | none => false
  integerOf false (valueIn base run)

def exponent? : Reader (Option Int) := do
  if ← takeOneOf? ['e', 'E'] then do
    let negative := (← sign?).getD false
    let size := Decimal.value (← digitsFrom Char.isDigit)
    return some (if negative then -(size : Int) else size)
  else return none

def exponentLimit : Int := 1000000

def realOf (negative : Bool) (significand : Nat) (exponent : Int) : Reader Value :=
  let exponent := max (-exponentLimit) (min exponent exponentLimit)
  let number := Decimal.nearest negative significand exponent
  if number == 1.0 / 0.0 then failure else return .real number

def decimal (negative : Bool) : Reader Value := do
  let run ← if ← take? ['0'] then pure ['0'] else digitsFrom Char.isDigit
  let fraction ← if ← take? ['.'] then some <$> digitsFrom Char.isDigit else pure none
  let exponent ← exponent?
  match fraction, exponent with
  | none, none => integerOf negative (Decimal.value run)
  | fraction, exponent =>
    let fraction := fraction.getD []
    realOf negative (Decimal.value (run ++ fraction)) (exponent.getD 0 - fraction.length)

def signed : Reader Value := do
  let negative := (← sign?).getD false
  if ← take? ['i', 'n', 'f'] then return .real (if negative then -1.0 / 0.0 else 1.0 / 0.0)
  else if ← take? ['n', 'a', 'n'] then return .real (0.0 / 0.0)
  else decimal negative

def field (digits low high : Nat) : Reader Nat := do
  let run := (← get).take digits
  if run.length = digits ∧ run.all Char.isDigit then do
    set ((← get).drop digits)
    let number := Decimal.value run
    if low ≤ number ∧ number ≤ high then return number else failure
  else failure

def daysIn (year month : Nat) : Nat :=
  if month = 2 then if year % 4 = 0 ∧ (year % 100 ≠ 0 ∨ year % 400 = 0) then 29 else 28
  else if month = 4 ∨ month = 6 ∨ month = 9 ∨ month = 11 then 30
  else 31

def time : Reader Unit := do
  let _ ← field 2 0 23
  take [':']
  let _ ← field 2 0 59
  take [':']
  let _ ← field 2 0 60
  if ← take? ['.'] then
    let _ ← spanSome Char.isDigit

def digitsThen (count : Nat) (mark : Char) (text : List Char) : Bool :=
  (text.take count).length = count && (text.take count).all Char.isDigit && (text.drop count).head? = some mark

def date : Reader Unit := do
  let year ← field 4 0 9999
  take ['-']
  let month ← field 2 1 12
  take ['-']
  let _ ← field 2 1 (daysIn year month)

def offset : Reader Unit := do
  if ← takeOneOf? ['Z', 'z'] then return ()
  else if (← sign?).isSome then do
    let _ ← field 2 0 23
    take [':']
    let _ ← field 2 0 59
  else return ()

def timeOfDay : Reader Unit := do
  match ← get with
  | mark :: rest =>
    if (mark = 'T' ∨ mark = 't' ∨ mark = ' ') ∧ digitsThen 2 ':' rest then do
      let _ ← next
      time
      offset
    else return ()
  | [] => return ()

def spelled (body : Reader Unit) : Reader String := do
  let before ← get
  body
  return .ofList (before.take (before.length - (← get).length))

def numeric : Reader Value := do
  let text ← get
  if digitsThen 4 '-' text then
    return .moment (← spelled do
      date
      timeOfDay)
  else if digitsThen 2 ':' text then return .moment (← spelled time)
  else if ← take? ['0', 'x'] then based 16
  else if ← take? ['0', 'o'] then based 8
  else if ← take? ['0', 'b'] then based 2
  else signed

def listItem (item : Reader Value) : Reader (Option Value) := do
  gap
  if ← ahead [']'] then return none
  else do
    let value ← item
    gap
    if ← take? [','] then return some value
    else if ← ahead [']'] then return some value
    else failure

def assigned (item : Reader Value) : Reader Value := do
  take ['=']
  blanks
  item

def braces (item : Reader Value) : Reader Value := do
  blanks
  if ← take? ['}'] then return .table .braces []
  else do
    let entry : Reader (Key × Value) := do
      let key ← key
      let value ← assigned item
      blanks
      return (key, value)
    let first ← entry
    let others ← many do
      if ← take? [','] then return some (← entry) else return none
    take ['}']
    Table.ofEntries (first :: others)

def plainValue : Reader Value := do
  match ← look with
  | none => failure
  | some '"' => return .text (← text '"')
  | some '\'' => return .text (← text '\'')
  | some 't' => do
    take ['t', 'r', 'u', 'e']
    return .boolean true
  | some 'f' => do
    take ['f', 'a', 'l', 's', 'e']
    return .boolean false
  | some c =>
    if c.isDigit ∨ c = '+' ∨ c = '-' ∨ c = 'i' ∨ c = 'n' then numeric else failure

def value : Nat → Reader Value
  | 0 => plainValue
  | room + 1 => do
    if ← take? ['['] then do
      let items ← many (listItem (value room))
      take [']']
      return .list items
    else if ← take? ['\x7b'] then braces (value room)
    else plainValue

def line : Reader Line := do
  if ← take? ['[', '['] then do
    let key ← key
    take [']', ']']
    return .row key
  else if ← take? ['['] then do
    let key ← key
    take [']']
    return .header key
  else do
    let key ← key
    return .entry key (← assigned (value (nestingLimit - 1)))

def file : Reader (List Line) := do
  let _ ← take? ['\ufeff']
  many do
    gap
    match ← look with
    | none => return none
    | some _ => do
      let line ← line
      endOfLine
      return some line

end Reader

def read (text : String) : Option Entries := do
  let (lines, _) ← Reader.file.run text.toList
  Entries.ofLines lines

end CallProfile.Toml
