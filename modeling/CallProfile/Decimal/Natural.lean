namespace CallProfile.Decimal

def digits (number : Nat) : List Char := Nat.toDigits 10 number

def natural (number : Nat) : String := .ofList (digits number)

def digitValue (c : Char) : Nat := c.toNat - '0'.toNat

def value (run : List Char) : Nat := run.foldl (fun total c => 10 * total + digitValue c) 0

def natural? (text : List Char) : Option Nat :=
  if text.isEmpty || !text.all Char.isDigit then none else some (value text)

end CallProfile.Decimal
