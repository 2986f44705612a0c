import CallProfile.Counter.Usage

namespace CallProfile.Usage

def words (word : List Char) : List Char → List (List Char)
  | [] => if word.isEmpty then [] else [word.reverse]
  | c :: rest =>
    if c = ' ' ∨ c = '\t' ∨ c = '\n' then
      if word.isEmpty then words [] rest else word.reverse :: words [] rest
    else words (c :: word) rest

def numberOf (word : List Char) : Nat := (Decimal.natural? word).getD 0

def labelled (label : String) : List (List Char) → Nat
  | [] => 0
  | [_] => 0
  | word :: next :: rest =>
    if word = label.toList then numberOf next else labelled label (next :: rest)

def behindParenthesis (text : List Char) : List Char := (text.reverse.takeWhile (· ≠ ')')).reverse

def tick : Nat := 10000

def blockSize : Nat := 512

def ofRecords (line status traffic : String) : Usage :=
  let numbers := words [] (behindParenthesis line.toList)
  let numberAt (index : Nat) : Nat := numberOf ((numbers[index]?).getD [])
  let status := words [] status.toList
  let traffic := words [] traffic.toList
  { userMicroseconds := .ofNat (numberAt 11 * tick)
    systemMicroseconds := .ofNat (numberAt 12 * tick)
    minorFaults := .ofNat (numberAt 7)
    majorFaults := .ofNat (numberAt 9)
    voluntarySwitches := .ofNat (labelled "voluntary_ctxt_switches:" status)
    involuntarySwitches := .ofNat (labelled "nonvoluntary_ctxt_switches:" status)
    blocksIn := .ofNat (labelled "read_bytes:" traffic / blockSize)
    blocksOut := .ofNat (labelled "write_bytes:" traffic / blockSize) }

end CallProfile.Usage
