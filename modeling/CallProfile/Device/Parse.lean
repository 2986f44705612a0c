import CallProfile.Device
import CallProfile.Text.Blank
import CallProfile.Text.Lowercase

namespace CallProfile.Device

inductive ParseError where
  | emptyKind
  | invalidKind (kind : String)
  | invalidIndex (text : String)
deriving DecidableEq

def ParseError.message : ParseError → String
  | emptyKind => "empty device kind"
  | invalidKind kind => "invalid device kind: " ++ kind
  | invalidIndex text => "invalid device index in `" ++ text ++ "`"

def Kind.isNameChar (c : Char) : Bool := c.isAlphanum || c = '_'

def Kind.parse (text : String) : Except ParseError Kind :=
  let name := Text.lowercase (Text.trim text)
  if name = "" then .error .emptyKind
  else if name = "cpu" then .ok .cpu
  else if name = "gpu" ∨ name = "cuda" then .ok .gpu
  else if name.toList.all Kind.isNameChar then .ok (.other name)
  else .error (.invalidKind name)

def index? (text : List Char) : Option UInt32 :=
  let run := match text with
    | '+' :: run => run
    | run => run
  match Decimal.natural? run with
  | some number => if number < UInt32.size then some (.ofNat number) else none
  | none => none

def splitColon : List Char → Option (List Char × List Char)
  | [] => none
  | c :: rest =>
    if c = ':' then some ([], rest) else (splitColon rest).map fun parts => (c :: parts.1, parts.2)

def parse (text : String) : Except ParseError Device :=
  match splitColon (Text.trimChars text.toList) with
  | none => return ⟨← Kind.parse text, 0⟩
  | some (kind, index) =>
    match index? (Text.trimChars index) with
    | some index => return ⟨← Kind.parse (.ofList kind), index⟩
    | none => .error (.invalidIndex text)

/-- The device of a kind that is given by name; the name is put into lower case and not checked. -/
def named (kind : String) (index : UInt32) : Device := ⟨.other (Text.lowercase kind), index⟩

end CallProfile.Device
