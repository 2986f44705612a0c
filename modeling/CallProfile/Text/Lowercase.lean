import CallProfile.Text.CaseTables

namespace CallProfile.Text

def inRanges (ranges : List (Nat × Nat)) (c : Char) : Bool :=
  ranges.any fun range => range.1 ≤ c.toNat && c.toNat ≤ range.2

def isCased (c : Char) : Bool := inRanges casedRanges c

def isUncounted (c : Char) : Bool := inRanges uncountedRanges c

def lowerChar (c : Char) : List Char :=
  if c.toNat < 0x80 then [c.toLower]
  else if c = '\u0130' then ['i', '\u0307']
  else match lowerRuns.find? (·.covers c.toNat) with
    | some run => [.ofNat (c.toNat + run.shift).toNat]
    | none => [c]

def meetsCased (text : List Char) : Bool := (text.dropWhile isUncounted).head?.any isCased

def lowerFrom (before : List Char) : List Char → List Char
  | [] => []
  | c :: rest =>
    let lowered :=
      if c = 'Σ' then [if meetsCased before && !meetsCased rest then 'ς' else 'σ'] else lowerChar c
    lowered ++ lowerFrom (c :: before) rest

def lowercase (text : String) : String := .ofList (lowerFrom [] text.toList)

end CallProfile.Text
