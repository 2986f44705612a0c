import CallProfile.Json.Fault

namespace CallProfile.Json

inductive Symbol where
  | char (c : Char)
  | stray
deriving DecidableEq

namespace Symbol

def size : Symbol → Nat
  | char c => c.utf8Size
  | stray => 1

def isDigit : Symbol → Bool
  | char c => c.isDigit
  | stray => false

def isSpace : Symbol → Bool
  | char c => c = ' ' || c = '\n' || c = '\t' || c = '\r'
  | stray => false

def isControl : Symbol → Bool
  | char c => c < ' '
  | stray => false

end Symbol

def symbols (text : String) : List Symbol := text.toList.map .char

def symbolsFrom (bytes : ByteArray) : Nat → Nat → List Symbol
  | 0, _ => []
  | steps + 1, index =>
    if bytes.size ≤ index then []
    else match bytes.utf8DecodeChar? index with
      | some c => .char c :: symbolsFrom bytes steps (index + c.utf8Size)
      | none => .stray :: symbolsFrom bytes steps (index + 1)

def symbolsOfBytes (bytes : ByteArray) : List Symbol :=
  match String.fromUTF8? bytes with
  | some text => symbols text
  | none => symbolsFrom bytes bytes.size 0

def Position.after (position : Position) (symbol : Symbol) : Position :=
  if symbol = .char '\n' then ⟨position.line + 1, 0⟩ else ⟨position.line, position.column + symbol.size⟩

def Position.afterByte (position : Position) : List Symbol → Position
  | [] => position
  | .char '\n' :: _ => ⟨position.line + 1, 0⟩
  | _ :: _ => ⟨position.line, position.column + 1⟩

def Position.afterBytes (position : Position) : Nat → List Symbol → Option Position
  | 0, _ => some position
  | _ + 1, [] => none
  | count + 1, symbol :: rest =>
    if symbol.size ≤ count + 1 then (position.after symbol).afterBytes (count + 1 - symbol.size) rest
    else some ⟨position.line, position.column + count + 1⟩

/-- Where the symbols come from. A stream has handed out a symbol as soon as it has been looked at. -/
inductive Source where
  | text
  | stream
deriving DecidableEq

structure Cursor where
  rest : List Symbol
  position : Position
  looked : Bool
  source : Source

namespace Cursor

def start (source : Source) (symbols : List Symbol) : Cursor := ⟨symbols, ⟨1, 0⟩, false, source⟩

def ahead (cursor : Cursor) : Position := cursor.position.afterByte cursor.rest

def reached (cursor : Cursor) : Position :=
  if cursor.source = .stream && cursor.looked then cursor.ahead else cursor.position

def next (cursor : Cursor) : Cursor :=
  match cursor.rest with
  | [] => { cursor with looked := false }
  | symbol :: rest =>
    { cursor with rest := rest, position := cursor.position.after symbol, looked := false }

def span (condition : Symbol → Bool) (cursor : Cursor) : List Symbol × Cursor :=
  let run := cursor.rest.takeWhile condition
  (run,
    { cursor with
      rest := cursor.rest.dropWhile condition
      position := run.foldl Position.after cursor.position
      looked := true })

end Cursor

end CallProfile.Json
