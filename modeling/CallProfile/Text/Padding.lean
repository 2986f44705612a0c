namespace CallProfile

/-- What ends a program that cannot go on. -/
structure Panic where
  message : String
deriving DecidableEq

/-- Nothing is printed of a text whose making ends the program. -/
instance : Coe (Except Panic String) String := ⟨fun text => text.toOption.getD ""⟩

namespace Text

def widthLimit : Nat := 65535

def tooWide : Panic := ⟨"Formatting argument out of range"⟩

/-- A width that is known only when the text is made: texts are padded to 16 bits. -/
def width (count : Nat) : Except Panic UInt16 :=
  if count ≤ widthLimit then .ok (.ofNat count) else .error tooWide

def blanks (count : Nat) : String := .ofList (List.replicate count ' ')

/-- The text at the left edge of a column; a text that is wider than its column stays whole. -/
def padRight (width : UInt16) (text : String) : String := text ++ blanks (width.toNat - text.length)

def padLeft (width : UInt16) (text : String) : String := blanks (width.toNat - text.length) ++ text

end Text

end CallProfile
