import CallProfile.Proofs.Decimal.Natural
import CallProfile.Proofs.Json.Reads

namespace CallProfile.Json.Reader

open Decimal (value digits digitValue)

variable {gap after : List Symbol} {run fraction : List Char} {negative : Bool} {result : Number}

def NoDigit (after : List Symbol) : Prop := ∀ symbol ∈ after.head?, ¬ symbol.isDigit

/-- The text does not go on as a number does. -/
structure Stops (after : List Symbol) : Prop where
  noDigit : NoDigit after
  noPoint : after.head? ≠ some (.char '.')
  noExponent : after.head? ≠ some (.char 'e') ∧ after.head? ≠ some (.char 'E')

theorem stops_nil : Stops [] where
  noDigit _ same := absurd same (Option.not_mem_none _)
  noPoint := nofun
  noExponent := ⟨nofun, nofun⟩

theorem noDigit_cons {c : Char} (h : ¬ c.isDigit) : NoDigit (.char c :: after) := fun _ same =>
  Option.some.inj same ▸ h

theorem reads_digitRun (all : ∀ c ∈ run, c.isDigit) (stop : NoDigit after) :
    Reads digitRun (written run ++ after) run after := by
  have symbols : ∀ symbol ∈ written run, symbol.isDigit := by
    simpa [written, Symbol.isDigit] using all
  have taken : Reads digitRun (written run ++ after) _ after := (reads_span symbols stop).map _
  rw [written, List.filterMap_map] at taken
  exact Eq.subst (motive := fun digits => Reads digitRun _ digits after) List.filterMap_some taken

structure Whole (run : List Char) : Prop where
  all : ∀ c ∈ run, c.isDigit
  leading : run = ['0'] ∨ ∃ first rest, run = first :: rest ∧ first ≠ '0'

theorem Whole.zero : Whole ['0'] where
  all := List.forall_mem_singleton.mpr rfl
  leading := .inl rfl

theorem Whole.of_head {first : Char} {rest : List Char} (all : ∀ c ∈ first :: rest, c.isDigit)
    (nonzero : first ≠ '0') : Whole (first :: rest) where
  all := all
  leading := .inr ⟨first, rest, rfl, nonzero⟩

theorem whole_digits (number : Nat) : Whole (digits number) where
  all _ member := Decimal.isDigit_of_mem_digits member
  leading := by
    rcases Nat.eq_zero_or_pos number with rfl | positive
    · exact .inl rfl
    · exact .inr (Decimal.digits_head positive)

theorem exists_digits_cons (number : Nat) : ∃ c rest, digits number = c :: rest ∧ c.isDigit := by
  obtain ⟨first, rest, split⟩ := List.exists_cons_of_ne_nil (Decimal.digits_ne_nil number)
  exact ⟨first, rest, split, Decimal.isDigit_of_mem_digits (split ▸ List.mem_cons_self)⟩

theorem reads_wholeDigits (whole : Whole run) (stop : NoDigit after) :
    Reads wholeDigits (written run ++ after) run after := by
  rcases whole.leading with rfl | ⟨first, rest, rfl, nonzero⟩
  · refine reads_look.bind (Reads.past (reads_look.bind ?_))
    split
    next symbol same =>
      rw [if_neg (stop symbol same)]
      exact reads_pure
    next => exact reads_pure
  · have digit : (Symbol.char first).isDigit := whole.all first List.mem_cons_self
    refine reads_look.bind ?_
    simp only [written, List.map_cons, List.cons_append, List.head?_cons]
    split
    next same => cases same
    next same => exact absurd (by simpa using same) nonzero
    next symbol _ same =>
      obtain rfl : Symbol.char first = symbol := Option.some.inj same
      rw [if_pos digit]
      exact reads_digitRun whole.all stop

theorem reads_atExponent (stop : Stops after) : Reads atExponent after false after := by
  have notExponent := stop.noExponent
  refine reads_look.bind ?_
  split
  next c same =>
    rw [same] at notExponent
    have neither : (c = 'e' || c = 'E') = false := by simpa using notExponent
    rw [neither]
    exact reads_pure
  next => exact reads_pure

theorem reads_number_whole (whole : Whole run) (stop : Stops after)
    (reads : Reads (Reader.whole negative (value run)) after result after) :
    Reads (number negative) (written run ++ after) result after := by
  refine (reads_wholeDigits whole stop.noDigit).bind (reads_look.bind ?_)
  split
  next same => exact absurd same stop.noPoint
  next => exact (reads_atExponent stop).bind reads

theorem reads_number_fraction (whole : Whole run) (all : ∀ c ∈ fraction, c.isDigit) (some : fraction ≠ [])
    (stop : Stops after)
    (reads : Reads (finite negative (value (run ++ fraction)) (-(fraction.length : Int))) after result after) :
    Reads (number negative) (written run ++ .char '.' :: (written fraction ++ after)) result after := by
  refine (reads_wholeDigits whole (noDigit_cons (by decide))).bind (reads_look.bind ?_)
  refine Reads.past ((reads_digitRun all stop.noDigit).bind ?_)
  rw [if_neg (by simpa using some)]
  exact (reads_atExponent stop).bind reads

theorem reads_exponentFrom (front : List Char) (all : ∀ c ∈ run, c.isDigit)
    (bound : value (front ++ run) ≤ exponentLimit) {steps : Nat} (enough : run.length < steps) (stop : NoDigit after) :
    Reads (exponentFrom steps (value front)) (written run ++ after) (some (value (front ++ run))) after := by
  induction run generalizing front steps with
  | nil =>
    obtain ⟨steps, rfl⟩ := Nat.exists_eq_add_one.mpr (Nat.zero_lt_of_lt enough)
    rw [List.append_nil]
    refine reads_look.bind ?_
    split
    next c same =>
      have notDigit : ¬ c.isDigit := stop (.char c) same
      rw [if_neg notDigit]
      exact reads_pure
    next => exact reads_pure
  | cons c rest ih =>
    obtain ⟨steps, rfl⟩ := Nat.exists_eq_add_one.mpr (Nat.zero_lt_of_lt enough)
    have next : 10 * value front + digitValue c = value (front ++ [c]) := by
      simp [value]
    have onward : front ++ c :: rest = front ++ [c] ++ rest := by simp
    have within : value (front ++ [c]) ≤ exponentLimit := by
      rw [onward, Decimal.value_append] at bound
      have power : 0 < 10 ^ rest.length := Nat.pow_pos (by decide)
      have grows := Nat.le_mul_of_pos_left (value (front ++ [c])) power
      omega
    refine reads_look.bind ?_
    simp only [written, List.map_cons, List.cons_append, List.head?_cons]
    rw [if_pos (all c List.mem_cons_self)]
    refine Reads.past ?_
    rw [next, if_neg (by omega), onward]
    exact ih _ (fun d member => all d (List.mem_cons_of_mem _ member)) (onward ▸ bound)
      (by simpa using enough)

theorem reads_withExponent {significand shift exponent : Nat} (below : Bool) (bound : exponent ≤ exponentLimit)
    (stop : NoDigit after)
    (reads : Reads (finite negative significand ((if below then -(exponent : Int) else exponent) - shift))
      after result after) :
    Reads (withExponent negative significand shift)
      (.char 'e' :: .char (if below then '-' else '+') :: (written (digits exponent) ++ after)) result after := by
  have sign : Reads exponentSign (.char (if below then '-' else '+') :: (written (digits exponent) ++ after)) below
      (written (digits exponent) ++ after) := by
    cases below with
    | true => exact reads_look.bind reads_pure.past
    | false => exact reads_look.bind reads_pure.past
  have number : Reads (withSteps fun steps => exponentFrom steps 0) (written (digits exponent) ++ after)
      (some exponent) after := by
    have all (c : Char) (member : c ∈ digits exponent) : c.isDigit := Decimal.isDigit_of_mem_digits member
    have within : value ([] ++ digits exponent) ≤ exponentLimit := by simpa using bound
    have enough : (digits exponent).length < (written (digits exponent) ++ after).length + 1 := by
      rw [List.length_append, List.length_map]
      omega
    have taken := reads_exponentFrom [] all within enough stop
    rw [List.nil_append, Decimal.value_digits] at taken
    exact taken.withSteps
  refine Reads.past (sign.bind (reads_look.bind ?_))
  obtain ⟨first, rest, split, digit⟩ := exists_digits_cons exponent
  have digit : (Symbol.char first).isDigit := digit
  have head : (written (digits exponent) ++ after).head? = some (.char first) := by rw [split]; rfl
  rw [head]
  simp only [digit, if_true]
  exact number.bind reads

theorem reads_number_exponent {exponent : Nat} (whole : Whole run) (below : Bool) (bound : exponent ≤ exponentLimit)
    (stop : NoDigit after)
    (reads : Reads (finite negative (value run) (if below then -(exponent : Int) else exponent)) after result after) :
    Reads (number negative)
      (written run ++ .char 'e' :: .char (if below then '-' else '+') :: (written (digits exponent) ++ after))
      result after := by
  refine (reads_wholeDigits whole (noDigit_cons (by decide))).bind (reads_look.bind ?_)
  refine Reads.bind (reads_look.bind reads_pure) ?_
  exact reads_withExponent below bound stop (by simpa using reads)

theorem reads_number_fraction_exponent {exponent : Nat} (whole : Whole run) (all : ∀ c ∈ fraction, c.isDigit)
    (some : fraction ≠ []) (below : Bool) (bound : exponent ≤ exponentLimit) (stop : NoDigit after)
    (reads : Reads (finite negative (value (run ++ fraction))
      ((if below then -(exponent : Int) else exponent) - fraction.length)) after result after) :
    Reads (number negative)
      (written run ++ .char '.' :: (written fraction ++
        .char 'e' :: .char (if below then '-' else '+') :: (written (digits exponent) ++ after)))
      result after := by
  refine (reads_wholeDigits whole (noDigit_cons (by decide))).bind (reads_look.bind ?_)
  refine Reads.past ((reads_digitRun all (noDigit_cons (by decide))).bind ?_)
  rw [if_neg (by simpa using some)]
  refine Reads.bind (reads_look.bind reads_pure) ?_
  exact reads_withExponent below bound stop reads

theorem reads_number? {body : List Char} (blank : Blank gap) (first : ∃ c rest, body = c :: rest ∧ c.isDigit)
    (reads : Reads (number negative) (written body ++ after) result after) :
    Reads number? (gap ++ (written (if negative then '-' :: body else body) ++ after)) (some result) after := by
  obtain ⟨c, rest, rfl, digit⟩ := first
  cases negative with
  | true =>
    have notSpace : ¬ (Symbol.char '-').isSpace := by decide
    exact (reads_lookPastSpace_cons blank notSpace).bind (reads.map some).past
  | false =>
    have notSign : c ≠ '-' := by
      rintro rfl
      exact absurd digit (by decide)
    have notSpace : ¬ (Symbol.char c).isSpace := by
      rintro space
      simp only [Symbol.isSpace, Bool.or_eq_true, decide_eq_true_eq] at space
      rcases space with ((rfl | rfl) | rfl) | rfl <;> exact absurd digit (by decide)
    refine (reads_lookPastSpace_cons blank notSpace).bind ?_
    split
    next same => cases same
    next same => exact absurd (by simpa using same) notSign
    next symbol _ same =>
      obtain rfl : Symbol.char c = symbol := Option.some.inj same
      rw [if_pos (show (Symbol.char c).isDigit from digit)]
      exact reads.map some

theorem reads_natural {number limit : Nat} (blank : Blank gap) (stop : Stops after) (expected : String)
    (bound : number ≤ limit) (word : number ≤ naturalLimit) :
    Reads (natural expected limit) (gap ++ (written (digits number) ++ after)) number after := by
  have taken : Reads (Reader.whole false (value (digits number))) after (.natural number) after := by
    rw [Decimal.value_digits, Reader.whole, if_neg Bool.false_ne_true, if_pos word]
    exact reads_pure
  have reads := reads_number? blank (exists_digits_cons number) (reads_number_whole (whole_digits number) stop taken)
  refine (reads.bind ?_).placed
  simp only [bound, if_true]
  exact reads_pure

theorem reads_natural64 {number : Nat} (blank : Blank gap) (stop : Stops after) (bound : number < UInt64.size) :
    Reads natural64 (gap ++ (written (digits number) ++ after)) number after := by
  have limit : number ≤ UInt64.size - 1 := by omega
  exact reads_natural blank stop "u64" limit limit

theorem reads_natural32 {number : Nat} (blank : Blank gap) (stop : Stops after) (bound : number < UInt32.size) :
    Reads natural32 (gap ++ (written (digits number) ++ after)) number after := by
  have limit : number ≤ UInt32.size - 1 := by omega
  have word : number ≤ naturalLimit := Nat.le_trans limit (by decide)
  exact reads_natural blank stop "u32" limit word

theorem signed_natAbs (number : Int) :
    (if decide (number < 0) then -(number.natAbs : Int) else number.natAbs) = number := by
  by_cases below : number < 0
  · rw [if_pos (by simpa using below)]
    omega
  · rw [if_neg (by simpa using below)]
    omega

theorem isDigit_of_mem_zeros {count : Nat} {c : Char} (member : c ∈ List.replicate count '0') : c.isDigit := by
  rw [List.eq_of_mem_replicate member]
  rfl

section Positive

variable {significand : Nat} {exponent : Int} (stop : Stops after)
  (reads : ∀ more : Nat, Reads (finite negative (significand * 10 ^ more) (exponent - more)) after result after)
include stop reads

theorem reads_scientific (positive : 0 < significand) {leading : Int}
    (leads : leading = exponent + (digits significand).length - 1) (bound : leading.natAbs ≤ exponentLimit) :
    Reads (number negative)
      (written (pointed (digits significand) ++ 'e' :: (if leading < 0 then '-' else '+') :: digits leading.natAbs) ++
        after) result after := by
  obtain ⟨first, rest, split, nonzero⟩ := Decimal.digits_head positive
  have all (c : Char) (member : c ∈ digits significand) : c.isDigit := Decimal.isDigit_of_mem_digits member
  have number := Decimal.value_digits significand
  have taken := reads 0
  rw [split] at all number leads
  rw [split]
  cases rest with
  | nil =>
    have reads : Reads (finite negative (value [first]) (if decide (leading < 0) then -(leading.natAbs : Int)
        else leading.natAbs)) after result after := by
      rw [signed_natAbs, number]
      simpa [leads] using taken
    have scientific := reads_number_exponent (Whole.of_head all nonzero) _ bound stop.noDigit reads
    simpa [pointed] using scientific
  | cons second rest =>
    have fraction (c : Char) (member : c ∈ second :: rest) : c.isDigit := all c (List.mem_cons_of_mem _ member)
    have whole : Whole [first] := Whole.of_head (fun c member => all c (by simp_all)) nonzero
    have reads : Reads (finite negative (value ([first] ++ second :: rest)) ((if decide (leading < 0)
        then -(leading.natAbs : Int) else leading.natAbs) - (second :: rest).length)) after result after := by
      have shift : leading - (second :: rest).length = exponent - (0 : Nat) := by
        simp only [leads, List.length_cons]
        omega
      rw [signed_natAbs, List.singleton_append, number, shift]
      simpa using taken
    have scientific := reads_number_fraction_exponent whole fraction (by simp) _ bound stop.noDigit reads
    simpa [pointed] using scientific

theorem reads_positional_whole (positive : 0 < significand) (whole : 0 ≤ exponent) :
    Reads (number negative)
      (written (digits significand ++ List.replicate exponent.toNat '0' ++ ['.', '0']) ++ after) result after := by
  obtain ⟨first, rest, split, nonzero⟩ := Decimal.digits_head positive
  have all : ∀ c ∈ digits significand ++ List.replicate exponent.toNat '0', c.isDigit :=
    List.forall_mem_append.mpr ⟨fun _ => Decimal.isDigit_of_mem_digits, fun _ => isDigit_of_mem_zeros⟩
  have number : value (digits significand ++ List.replicate exponent.toNat '0' ++ ['0']) =
      significand * 10 ^ (exponent.toNat + 1) := by
    rw [Decimal.value_append, Decimal.value_append, Decimal.value_digits, Decimal.value_zeros, List.length_replicate,
      Nat.pow_succ]
    simp [value, digitValue, Nat.mul_left_comm, Nat.mul_comm]
  have taken := reads (exponent.toNat + 1)
  have shift : exponent - (exponent.toNat + 1 : Nat) = -(['0'].length : Int) := by
    simp only [List.length_singleton]
    omega
  rw [← number, shift] at taken
  have leading : Whole (digits significand ++ List.replicate exponent.toNat '0') := by
    rw [split] at all ⊢
    exact Whole.of_head all nonzero
  simpa using reads_number_fraction leading (List.forall_mem_singleton.mpr rfl) (by decide) stop taken

theorem reads_positional_mixed (positive : 0 < significand) {front : Nat} (some : 0 < front)
    (fewer : front < (digits significand).length) (places : exponent = front - (digits significand).length) :
    Reads (number negative)
      (written ((digits significand).take front ++ '.' :: (digits significand).drop front) ++ after) result after := by
  obtain ⟨first, rest, split, nonzero⟩ := Decimal.digits_head positive
  have all (c : Char) (member : c ∈ digits significand) : c.isDigit := Decimal.isDigit_of_mem_digits member
  have leading : Whole ((digits significand).take front) := by
    obtain ⟨front, rfl⟩ := Nat.exists_eq_add_one.mpr some
    rw [split] at all ⊢
    exact Whole.of_head (fun c member => all c (List.mem_of_mem_take (i := front + 1) member)) nonzero
  have taken := reads 0
  have shift : exponent - (0 : Nat) = -(((digits significand).drop front).length : Int) := by
    rw [List.length_drop]
    omega
  have number : significand * 10 ^ 0 = value ((digits significand).take front ++ (digits significand).drop front) := by
    rw [List.take_append_drop, Decimal.value_digits, Nat.pow_zero, Nat.mul_one]
  rw [shift, number] at taken
  have someBehind : (digits significand).drop front ≠ [] := by
    rw [ne_eq, List.drop_eq_nil_iff]
    omega
  have behind (c : Char) (member : c ∈ (digits significand).drop front) : c.isDigit :=
    all c (List.mem_of_mem_drop member)
  simpa using reads_number_fraction leading behind someBehind stop taken

theorem reads_positional_small (zeros : Nat) (places : exponent = -(zeros + (digits significand).length : Int)) :
    Reads (number negative)
      (written ('0' :: '.' :: List.replicate zeros '0' ++ digits significand) ++ after) result after := by
  have all : ∀ c ∈ List.replicate zeros '0' ++ digits significand, c.isDigit :=
    List.forall_mem_append.mpr ⟨fun _ => isDigit_of_mem_zeros, fun _ => Decimal.isDigit_of_mem_digits⟩
  have some : List.replicate zeros '0' ++ digits significand ≠ [] := by simp [Decimal.digits_ne_nil]
  have number : value (['0'] ++ (List.replicate zeros '0' ++ digits significand)) = significand * 10 ^ 0 := by
    rw [Decimal.value_append, Decimal.value_append, Decimal.value_zeros, Decimal.value_digits]
    simp [value, digitValue]
  have taken := reads 0
  have shift : exponent - (0 : Nat) = -((List.replicate zeros '0' ++ digits significand).length : Int) := by
    simp only [List.length_append, List.length_replicate]
    omega
  rw [← number, shift] at taken
  simpa using reads_number_fraction Whole.zero all some stop taken

/-- Every layout of a number reads back as the decimal that was laid out, perhaps with zeros at its end. -/
theorem reads_positive (layout : Positional) (positive : 0 < significand)
    (bound : (exponent + (digits significand).length - 1).natAbs ≤ exponentLimit) :
    Reads (number negative) (written (Json.positive layout significand exponent) ++ after) result after := by
  have someDigits : 0 < (digits significand).length := List.length_pos_iff.mpr (Decimal.digits_ne_nil significand)
  unfold Json.positive
  dsimp only
  split
  · exact reads_scientific stop reads positive rfl bound
  split
  next whole => exact reads_positional_whole stop reads positive whole
  split
  next notWhole leads => exact reads_positional_mixed stop reads positive (by omega) (by omega) (by omega)
  next notWhole small => exact reads_positional_small stop reads _ (by omega)

end Positive

end CallProfile.Json.Reader
