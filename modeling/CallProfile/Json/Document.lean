import CallProfile.Decimal.Shortest

namespace CallProfile.Json

inductive Document where
  | natural (number : Nat)
  | real (number : Float)
  | text (content : String)
  | list (items : List Document)
  | record (entries : List (String × Document))

def hexDigit (value : Nat) : Char := Nat.digitChar value

def escapeChar (c : Char) : List Char :=
  if c = '"' then ['\\', '"']
  else if c = '\\' then ['\\', '\\']
  else if c = '\x08' then ['\\', 'b']
  else if c = '\t' then ['\\', 't']
  else if c = '\n' then ['\\', 'n']
  else if c = '\x0c' then ['\\', 'f']
  else if c = '\r' then ['\\', 'r']
  else if c < ' ' then ['\\', 'u', '0', '0', hexDigit (c.toNat / 16), hexDigit (c.toNat % 16)]
  else [c]

def quote (content : String) : List Char := '"' :: content.toList.flatMap escapeChar ++ ['"']

structure Positional where
  low : Int
  high : Int

def plain : Positional := ⟨-5, 16⟩

def pointed : List Char → List Char
  | [] => []
  | [digit] => [digit]
  | digit :: rest => digit :: '.' :: rest

def positive (layout : Positional) (significand : Nat) (exponent : Int) : List Char :=
  let run := Decimal.digits significand
  let leading := exponent + run.length - 1
  if leading < layout.low ∨ layout.high ≤ leading then
    let sign := if leading < 0 then '-' else '+'
    pointed run ++ 'e' :: sign :: Decimal.digits leading.natAbs
  else if 0 ≤ exponent then run ++ List.replicate exponent.toNat '0' ++ ['.', '0']
  else if 0 ≤ leading then run.take (leading.toNat + 1) ++ '.' :: run.drop (leading.toNat + 1)
  else '0' :: '.' :: List.replicate (-leading - 1).toNat '0' ++ run

def finite? (x : Float) : Option (List Char) :=
  match Binary64.ofFloat x with
  | .finite negative mantissa exponent =>
    let body :=
      if mantissa = 0 then ['0', '.', '0']
      else
        let (significand, power) := Decimal.shortest mantissa exponent
        positive plain significand power
    some (if negative then '-' :: body else body)
  | _ => none

def real (x : Float) : List Char := (finite? x).getD "null".toList

namespace Document

mutual

def compact : Document → List Char
  | natural number => Decimal.digits number
  | real number => Json.real number
  | text content => quote content
  | list items => '[' :: compactItems items ++ [']']
  | record entries => '{' :: compactEntries entries ++ ['}']

def compactItems : List Document → List Char
  | [] => []
  | [item] => compact item
  | item :: next :: rest => compact item ++ ',' :: compactItems (next :: rest)

def compactEntries : List (String × Document) → List Char
  | [] => []
  | [(key, value)] => quote key ++ ':' :: compact value
  | (key, value) :: next :: rest => quote key ++ ':' :: compact value ++ ',' :: compactEntries (next :: rest)

end

def newline (level : Nat) : List Char := '\n' :: List.replicate (2 * level) ' '

mutual

def pretty (level : Nat) : Document → List Char
  | natural number => Decimal.digits number
  | real number => Json.real number
  | text content => quote content
  | list [] => ['[', ']']
  | list (item :: rest) =>
    '[' :: newline (level + 1) ++ pretty (level + 1) item ++ prettyItems (level + 1) rest ++
      newline level ++ [']']
  | record [] => ['{', '}']
  | record ((key, value) :: rest) =>
    '{' :: newline (level + 1) ++ quote key ++ ':' :: ' ' :: pretty (level + 1) value ++
      prettyEntries (level + 1) rest ++ newline level ++ ['}']

def prettyItems (level : Nat) : List Document → List Char
  | [] => []
  | item :: rest => ',' :: newline level ++ pretty level item ++ prettyItems level rest

def prettyEntries (level : Nat) : List (String × Document) → List Char
  | [] => []
  | (key, value) :: rest =>
    ',' :: newline level ++ quote key ++ ':' :: ' ' :: pretty level value ++ prettyEntries level rest

end

def compactText (document : Document) : String := .ofList document.compact

def prettyText (document : Document) : String := .ofList (document.pretty 0)

end Document

end CallProfile.Json
