import CallProfile.Device.Parse
import CallProfile.Proofs.Decimal.Natural

namespace CallProfile

namespace Text

theorem trimChars_eq {text : List Char} (h : ∀ c ∈ text, ¬ isBlank c) : trimChars text = text := by
  have start (text : List Char) (h : ∀ c ∈ text, ¬ isBlank c) : text.dropWhile isBlank = text := by
    cases text with
    | nil => rfl
    | cons c rest => rw [List.dropWhile_cons_of_neg (h c List.mem_cons_self)]
  rw [trimChars, trimEnd, trimStart, start text h, start _ fun c member => h c (List.mem_reverse.mp member),
    List.reverse_reverse]

theorem forall_ascii {property : Char → Prop} (h : ∀ code < 128, property (.ofNat code)) {c : Char}
    (ascii : c.toNat < 0x80) : property c :=
  c.ofNat_toNat ▸ h c.toNat ascii

theorem isUpper_eq_false_of_lt {c : Char} (h : 0x5a < c.toNat) : c.isUpper = false := by
  have above : ¬ c.val ≤ 'Z'.val := fun below => Nat.not_le_of_lt h below
  exact decide_eq_false fun upper => above upper.2

theorem isUpper_ofNat {code : Nat} (h : 0x5a < code) : (Char.ofNat code).isUpper = false := by
  by_cases valid : code.isValidChar
  · refine isUpper_eq_false_of_lt ?_
    rw [Char.ofNat, dif_pos valid]
    exact h
  · rw [Char.ofNat, dif_neg valid]
    rfl

theorem lowerRuns_above : ∀ run ∈ lowerRuns, 0x5a < run.first + run.shift := by decide +kernel

theorem isUpper_of_mem_lowerChar {c lowered : Char} (member : lowered ∈ lowerChar c) : lowered.isUpper = false := by
  unfold lowerChar at member
  split at member
  next ascii =>
    rw [List.mem_singleton.mp member]
    exact @forall_ascii (fun c => c.toLower.isUpper = false) (by decide) c ascii
  next other =>
  split at member
  · simp only [List.mem_cons, List.not_mem_nil, or_false] at member
    rcases member with rfl | rfl <;> decide
  split at member
  next run found =>
    rw [List.mem_singleton.mp member]
    have above := lowerRuns_above run (List.mem_of_find?_eq_some found)
    have covers := List.find?_some found
    simp only [LowerRun.covers, Bool.and_eq_true, decide_eq_true_eq] at covers
    exact isUpper_ofNat (by omega)
  next =>
    rw [List.mem_singleton.mp member]
    exact isUpper_eq_false_of_lt (by omega)

theorem isUpper_of_mem_lowerFrom {before text : List Char} {lowered : Char}
    (member : lowered ∈ lowerFrom before text) : lowered.isUpper = false := by
  induction text generalizing before with
  | nil => cases member
  | cons c rest ih =>
    rw [lowerFrom] at member
    rcases List.mem_append.mp member with member | member
    · split at member
      · rw [List.mem_singleton.mp member]
        split <;> rfl
      · exact isUpper_of_mem_lowerChar member
    · exact ih member

theorem lowerFrom_eq {text : List Char} (before : List Char) (ascii : ∀ c ∈ text, c.toNat < 0x80)
    (lower : ∀ c ∈ text, c.isUpper = false) : lowerFrom before text = text := by
  induction text generalizing before with
  | nil => rfl
  | cons c rest ih =>
    have asciiC := ascii c List.mem_cons_self
    have same : c.toLower = c := @forall_ascii (fun c => c.isUpper = false → c.toLower = c) (by decide) c asciiC
      (lower c List.mem_cons_self)
    have notSigma : c ≠ 'Σ' := by
      rintro rfl
      exact absurd asciiC (by decide)
    have tail := ih (c :: before) (fun d member => ascii d (List.mem_cons_of_mem _ member)) fun d member =>
      lower d (List.mem_cons_of_mem _ member)
    rw [lowerFrom, if_neg notSigma, lowerChar, if_pos asciiC, same, List.singleton_append, tail]

end Text

namespace Device

def Kind.isCanonicalChar (c : Char) : Bool := c.isLower || c.isDigit || c = '_'

/-- A kind with a name of its own that is not the name of another kind. -/
def Kind.IsCanonical : Kind → Prop
  | cpu => True
  | gpu => True
  | other name =>
    name ≠ "" ∧ (∀ c ∈ name.toList, isCanonicalChar c) ∧ name ≠ "cpu" ∧ name ≠ "gpu" ∧ name ≠ "cuda"

def IsCanonical (device : Device) : Prop := device.kind.IsCanonical

theorem Kind.isCanonicalChar_of_lower {c : Char} (name : isNameChar c) (lower : c.isUpper = false) :
    isCanonicalChar c := by
  have alphanumeric : c.isUpper || c.isLower || c.isDigit || c = '_' := name
  rwa [lower, Bool.false_or] at alphanumeric

theorem Kind.isCanonical_of_parse {text : String} {kind : Kind} (h : Kind.parse text = .ok kind) :
    kind.IsCanonical := by
  unfold Kind.parse at h
  dsimp only at h
  split at h
  next => cases h
  next notEmpty =>
  split at h
  next => cases h; trivial
  next notCpu =>
  split at h
  next => cases h; trivial
  next notGpu =>
  split at h
  next named =>
    cases h
    refine ⟨notEmpty, fun c member => ?_, notCpu, fun same => notGpu (.inl same), fun same => notGpu (.inr same)⟩
    refine isCanonicalChar_of_lower (List.all_eq_true.mp named c member) ?_
    rw [Text.lowercase, String.toList_ofList] at member
    exact Text.isUpper_of_mem_lowerFrom member
  next => cases h

/-- Whatever text is read, the device that it stands for is canonical. -/
theorem isCanonical_of_parse {text : String} {device : Device} (h : parse text = .ok device) : device.IsCanonical := by
  have ofKind {text : String} {index : UInt32} {device : Device}
      (h : (do return ⟨← Kind.parse text, index⟩) = Except.ok (ε := ParseError) device) : device.IsCanonical := by
    cases parsed : Kind.parse text with
    | error error => rw [parsed] at h; cases h
    | ok kind =>
      rw [parsed] at h
      cases h
      exact Kind.isCanonical_of_parse parsed
  unfold parse at h
  split at h
  next => exact ofKind h
  next =>
    split at h
    next => exact ofKind h
    next => cases h

theorem Kind.ascii_of_isCanonicalChar {c : Char} (h : isCanonicalChar c) : c.toNat < 0x80 := by
  simp only [isCanonicalChar, Bool.or_eq_true, decide_eq_true_eq] at h
  rcases h with (lower | digit) | rfl
  · have below : c.val ≤ 'z'.val := of_decide_eq_true (Bool.and_eq_true_iff.mp lower).2
    exact Nat.lt_of_le_of_lt below (show 'z'.toNat < 0x80 by decide)
  · exact Nat.lt_of_le_of_lt (Char.isDigit_iff_toNat.mp digit).2 (by decide)
  · decide

theorem Kind.of_isCanonicalChar {c : Char} (h : isCanonicalChar c) :
    c.isUpper = false ∧ isNameChar c ∧ ¬ Text.isBlank c ∧ c ≠ ':' :=
  @Text.forall_ascii
    (fun c => isCanonicalChar c → c.isUpper = false ∧ isNameChar c ∧ ¬ Text.isBlank c ∧ c ≠ ':')
    (by decide) c (ascii_of_isCanonicalChar h) h

theorem Kind.isCanonicalChar_of_mem_name {kind : Kind} (canonical : kind.IsCanonical) {c : Char}
    (member : c ∈ kind.name.toList) : isCanonicalChar c := by
  cases kind with
  | cpu =>
    have spelled : "cpu".toList.all (fun c => isCanonicalChar c) := by decide
    exact List.all_eq_true.mp spelled c member
  | gpu =>
    have spelled : "gpu".toList.all (fun c => isCanonicalChar c) := by decide
    exact List.all_eq_true.mp spelled c member
  | other name => exact canonical.2.1 c member

theorem Kind.parse_name {kind : Kind} (canonical : kind.IsCanonical) : Kind.parse kind.name = .ok kind := by
  have char (c : Char) (member : c ∈ kind.name.toList) := isCanonicalChar_of_mem_name canonical member
  have trimmed : Text.trim kind.name = kind.name := by
    rw [Text.trim, Text.trimChars_eq fun c member => (of_isCanonicalChar (char c member)).2.2.1, String.ofList_toList]
  have lower : Text.lowercase kind.name = kind.name := by
    rw [Text.lowercase, Text.lowerFrom_eq [] (fun c member => ascii_of_isCanonicalChar (char c member))
      (fun c member => (of_isCanonicalChar (char c member)).1), String.ofList_toList]
  have named : kind.name.toList.all isNameChar :=
    List.all_eq_true.mpr fun c member => (of_isCanonicalChar (char c member)).2.1
  simp only [Kind.parse, trimmed, lower]
  cases kind with
  | cpu => rfl
  | gpu => rfl
  | other name =>
    obtain ⟨notEmpty, -, notCpu, notGpu, notCuda⟩ := canonical
    simp only [Kind.name, notEmpty, notCpu, notGpu, notCuda, or_self, if_false] at named ⊢
    exact if_pos named

theorem splitColon_append {front : List Char} (h : ∀ c ∈ front, c ≠ ':') (back : List Char) :
    splitColon (front ++ ':' :: back) = some (front, back) := by
  induction front with
  | nil => rfl
  | cons c rest ih =>
    have notColon := h c List.mem_cons_self
    have tail := ih fun d member => h d (List.mem_cons_of_mem _ member)
    rw [List.cons_append, splitColon, if_neg notColon, tail]
    rfl

theorem index?_digits (index : UInt32) : index? (Decimal.digits index.toNat) = some index := by
  have read := Decimal.natural?_digits index.toNat
  have small : index.toNat < UInt32.size := index.toNat_lt_size
  have noSign : ∀ run, Decimal.digits index.toNat ≠ '+' :: run := by
    intro run same
    have digit : '+'.isDigit := Decimal.isDigit_of_mem_digits (same ▸ List.mem_cons_self)
    exact absurd digit (by decide)
  simp [index?, read, small]

theorem parse_text {device : Device} (canonical : device.IsCanonical) : parse device.text = .ok device := by
  have name (c : Char) (member : c ∈ device.kind.name.toList) :=
    Kind.of_isCanonicalChar (Kind.isCanonicalChar_of_mem_name canonical member)
  have digit : ∀ c ∈ Decimal.digits device.index.toNat, ¬ Text.isBlank c := fun c member =>
    @Text.forall_ascii (fun c => c.isDigit → ¬ Text.isBlank c) (by decide) c
      (Nat.lt_of_le_of_lt (Char.isDigit_iff_toNat.mp (Decimal.isDigit_of_mem_digits member)).2 (by decide))
      (Decimal.isDigit_of_mem_digits member)
  have form : device.text.toList = device.kind.name.toList ++ ':' :: Decimal.digits device.index.toNat := by
    simp [text, Decimal.natural]
  have trimmed : Text.trimChars device.text.toList = device.text.toList := by
    refine Text.trimChars_eq fun c member => ?_
    rw [form] at member
    rcases List.mem_append.mp member with member | member
    · exact (name c member).2.2.1
    · rcases List.mem_cons.mp member with rfl | member
      · decide
      · exact digit c member
  rw [parse, trimmed, form, splitColon_append fun c member => (name c member).2.2.2]
  simp only [Text.trimChars_eq digit, index?_digits, String.ofList_toList, Kind.parse_name canonical]
  rfl

end Device

end CallProfile
