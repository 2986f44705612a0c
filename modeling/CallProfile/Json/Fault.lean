import CallProfile.Json.Document
import CallProfile.Text.Quoted

namespace CallProfile.Json

inductive Found where
  | null
  | boolean (value : Bool)
  | natural (number : Nat)
  | negative (size : Nat)
  | real (number : Float)
  | text (content : String)
  | list
  | record
deriving DecidableEq

def Found.message : Found → String
  | null => "null"
  | boolean value => "boolean `" ++ (if value then "true" else "false") ++ "`"
  | natural number => "integer `" ++ Decimal.natural number ++ "`"
  | negative size => "integer `-" ++ Decimal.natural size ++ "`"
  | real number => "floating point `" ++ .ofList (Json.real number) ++ "`"
  | text content => "string " ++ Text.quoted content
  | list => "sequence"
  | record => "map"

inductive Cause where
  | endInValue | endInList | endInRecord | endInText
  | expectedColon | expectedListEnd | expectedRecordEnd | expectedWord | expectedValue
  | invalidEscape | invalidNumber | numberOutOfRange | invalidCharacter | controlCharacter
  | keyNotText | loneSurrogate | unfinishedSurrogate | trailingComma | trailingCharacters | tooDeep
  | wrongType (found : Found) (expected : String)
  | wrongValue (found : Found) (expected : String)
  | wrongLength (length : Nat) (expected : String)
  | missingField (name : String)
  | repeatedField (name : String)
  | unknownVariant (name : String) (known : List String)
  | refused (message : String)
deriving DecidableEq

def Cause.message : Cause → String
  | endInValue => "EOF while parsing a value"
  | endInList => "EOF while parsing a list"
  | endInRecord => "EOF while parsing an object"
  | endInText => "EOF while parsing a string"
  | expectedColon => "expected `:`"
  | expectedListEnd => "expected `,` or `]`"
  | expectedRecordEnd => "expected `,` or `\x7d`"
  | expectedWord => "expected ident"
  | expectedValue => "expected value"
  | invalidEscape => "invalid escape"
  | invalidNumber => "invalid number"
  | numberOutOfRange => "number out of range"
  | invalidCharacter => "invalid unicode code point"
  | controlCharacter => "control character (\\u0000-\\u001F) found while parsing a string"
  | keyNotText => "key must be a string"
  | loneSurrogate => "lone leading surrogate in hex escape"
  | unfinishedSurrogate => "unexpected end of hex escape"
  | trailingComma => "trailing comma"
  | trailingCharacters => "trailing characters"
  | tooDeep => "recursion limit exceeded"
  | wrongType found expected => "invalid type: " ++ found.message ++ ", expected " ++ expected
  | wrongValue found expected => "invalid value: " ++ found.message ++ ", expected " ++ expected
  | wrongLength length expected =>
    "invalid length " ++ Decimal.natural length ++ ", expected " ++ expected
  | missingField name => "missing field `" ++ name ++ "`"
  | repeatedField name => "duplicate field `" ++ name ++ "`"
  | unknownVariant name known =>
    "unknown variant `" ++ name ++ "`, expected one of " ++
      ", ".intercalate (known.map fun variant => "`" ++ variant ++ "`")
  | refused message => message

structure Position where
  line : Nat
  column : Nat
deriving DecidableEq, Inhabited

def Position.message (position : Position) : String :=
  " at line " ++ Decimal.natural position.line ++ " column " ++ Decimal.natural position.column

structure Fault where
  cause : Cause
  position : Option Position
deriving DecidableEq

def splitLast (mark : List Char) : List Char → Option (List Char × List Char)
  | [] => none
  | c :: rest =>
    match splitLast mark rest with
    | some (before, after) => some (c :: before, after)
    | none => if mark.isPrefixOf (c :: rest) then some ([], (c :: rest).drop mark.length) else none

def frontNumber? (text : List Char) : Option (Nat × List Char) :=
  (Decimal.natural? (text.takeWhile Char.isDigit)).map fun number => (number, text.dropWhile Char.isDigit)

def Position.ofMessage? (message : List Char) : Option (List Char × Position) := do
  let (before, place) ← splitLast " at line ".toList message
  let (line, rest) ← frontNumber? place
  if " column ".toList.isPrefixOf rest then
    let (column, rest) ← frontNumber? (rest.drop " column ".length)
    if rest.isEmpty && line < UInt64.size && column < UInt64.size then return (before, ⟨line, column⟩) else none
  else none

/-- A refusal; a position at the end of its message is its place, unless it names line 0. -/
def Fault.ofMessage (message : String) : Fault :=
  match Position.ofMessage? message.toList with
  | some (before, position) => ⟨.refused (.ofList before), if position.line = 0 then none else some position⟩
  | none => ⟨.refused message, none⟩

def Fault.message (fault : Fault) : String :=
  fault.cause.message ++ (fault.position.map Position.message).getD ""

end CallProfile.Json
