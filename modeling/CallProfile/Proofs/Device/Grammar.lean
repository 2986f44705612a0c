import CallProfile.Proofs.Device.Canonical

namespace CallProfile

namespace Text

def Blank (text : List Char) : Prop := ∀ c ∈ text, isBlank c

def Padded (core text : List Char) : Prop :=
  ∃ before after, Blank before ∧ Blank after ∧ text = before ++ core ++ after

theorem blank_takeWhile (text : List Char) : Blank (text.takeWhile isBlank) := by
  intro c member
  exact List.all_eq_true.mp List.all_takeWhile c member

theorem Blank.append {front back : List Char} (left : Blank front) (right : Blank back) : Blank (front ++ back) := by
  intro c member
  rcases List.mem_append.mp member with member | member
  · exact left c member
  · exact right c member

theorem Blank.reverse {text : List Char} (white : Blank text) : Blank text.reverse :=
  fun c member => white c (List.mem_reverse.mp member)

theorem Blank.dropWhile {blank : List Char} (white : Blank blank) (rest : List Char) :
    (blank ++ rest).dropWhile isBlank = rest.dropWhile isBlank := List.dropWhile_append_of_pos white

theorem exists_trimEnd_append (text : List Char) : ∃ trailing, Blank trailing ∧ trimEnd text ++ trailing = text := by
  refine ⟨(text.reverse.takeWhile isBlank).reverse, (blank_takeWhile _).reverse, ?_⟩
  rw [trimEnd, ← List.reverse_append, List.takeWhile_append_dropWhile, List.reverse_reverse]

theorem padded_trimChars (text : List Char) : Padded (trimChars text) text := by
  obtain ⟨after, white, ending⟩ := exists_trimEnd_append (trimStart text)
  refine ⟨text.takeWhile isBlank, after, blank_takeWhile text, white, ?_⟩
  rw [trimChars, List.append_assoc, ending]
  exact List.takeWhile_append_dropWhile.symm

theorem trimChars_of_padded {core text : List Char} (padded : Padded core text)
    (first : ∃ c rest, core = c :: rest ∧ ¬ isBlank c) (last : ∃ rest c, core = rest ++ [c] ∧ ¬ isBlank c) :
    trimChars text = core := by
  obtain ⟨before, after, whiteBefore, whiteAfter, rfl⟩ := padded
  have start : trimStart (before ++ core ++ after) = core ++ after := by
    obtain ⟨c, rest, rfl, black⟩ := first
    rw [trimStart, List.append_assoc, whiteBefore.dropWhile, List.cons_append, List.dropWhile_cons_of_neg black]
  obtain ⟨rest, c, rfl, black⟩ := last
  rw [trimChars, start, trimEnd, List.reverse_append, whiteAfter.reverse.dropWhile, List.reverse_append,
    List.reverse_singleton, List.singleton_append, List.dropWhile_cons_of_neg black, List.reverse_cons,
    List.reverse_reverse]

theorem trimChars_of_black {core text : List Char} (padded : Padded core text) (some : core ≠ [])
    (black : ∀ c ∈ core, ¬ isBlank c) : trimChars text = core := by
  refine trimChars_of_padded padded ?_ ?_
  · obtain ⟨c, rest, rfl⟩ := List.exists_cons_of_ne_nil some
    exact ⟨c, rest, rfl, black c List.mem_cons_self⟩
  · exact ⟨core.dropLast, core.getLast some, (List.dropLast_concat_getLast some).symm, black _ (List.getLast_mem some)⟩

theorem trimChars_eq_nil_iff {text : List Char} : trimChars text = [] ↔ Blank text := by
  constructor
  · intro nothing
    obtain ⟨before, after, whiteBefore, whiteAfter, split⟩ := padded_trimChars text
    rw [nothing, List.append_nil] at split
    exact split ▸ whiteBefore.append whiteAfter
  · intro white
    have start : trimStart text = [] := by
      rw [trimStart, ← List.append_nil text, white.dropWhile]
      rfl
    rw [trimChars, start]
    rfl

def blankCodes : List Nat :=
  List.range' 0x09 5 ++ List.range' 0x2000 11 ++ [0x20, 0x85, 0xa0, 0x1680, 0x2028, 0x2029, 0x202f, 0x205f, 0x3000]

theorem toNat_mem_blankCodes {c : Char} (white : isBlank c) : c.toNat ∈ blankCodes := by
  have between {low high : Char} (bounds : low ≤ c ∧ c ≤ high) : low.toNat ≤ c.toNat ∧ c.toNat ≤ high.toNat := bounds
  simp only [isBlank, Bool.or_eq_true, Bool.and_eq_true, decide_eq_true_eq] at white
  rcases white with (((((((((rfl | controls) | rfl) | rfl) | rfl) | spaces) | rfl) | rfl) | rfl) | rfl) | rfl
  · decide
  · have bounds : 0x09 ≤ c.toNat ∧ c.toNat ≤ 0x0d := between controls
    simp only [blankCodes, List.mem_append, List.mem_range'_1]
    omega
  · decide
  · decide
  · decide
  · have bounds : 0x2000 ≤ c.toNat ∧ c.toNat ≤ 0x200a := between spaces
    simp only [blankCodes, List.mem_append, List.mem_range'_1]
    omega
  all_goals decide

theorem lowerChar_of_blank {c : Char} (white : isBlank c) : lowerChar c = [c] := by
  have fixed : blankCodes.all fun code => lowerChar (.ofNat code) = [.ofNat code] := by decide +kernel
  have fixedHere := List.all_eq_true.mp fixed c.toNat (toNat_mem_blankCodes white)
  rwa [Char.ofNat_toNat, decide_eq_true_eq] at fixedHere

theorem mem_lowerFrom {text : List Char} {c : Char} (member : c ∈ text) (plain : c ≠ 'Σ') (fixed : lowerChar c = [c])
    (before : List Char) : c ∈ lowerFrom before text := by
  induction text generalizing before with
  | nil => cases member
  | cons first rest ih =>
    rw [lowerFrom]
    rcases List.mem_cons.mp member with rfl | later
    · rw [if_neg plain, fixed]
      exact List.mem_append_left _ List.mem_cons_self
    · exact List.mem_append_right _ (ih later _)

end Text

namespace Device

def Kind.IsName (name : String) : Prop := name ≠ "" ∧ ∀ c ∈ name.toList, isCanonicalChar c

/-- The kind that a name in lower case stands for. -/
inductive Kind.Named : String → Kind → Prop
  | cpu : Named "cpu" .cpu
  | gpu : Named "gpu" .gpu
  | cuda : Named "cuda" .gpu
  | other {name : String} (word : IsName name) (own : name ≠ "cpu" ∧ name ≠ "gpu" ∧ name ≠ "cuda") :
    Named name (.other name)

/-- A number in decimal digits, one or more, with or without a plus sign before them. -/
def Numeral (text : List Char) (number : Nat) : Prop :=
  ∃ digits, (text = digits ∨ text = '+' :: digits) ∧ digits ≠ [] ∧ (∀ c ∈ digits, c.isDigit) ∧
    number = Nat.ofDigitChars 10 digits 0

/-- The texts that stand for a device. -/
inductive Written : List Char → Device → Prop
  | bare {text word : List Char} {kind : Kind} (padded : Text.Padded word text)
    (named : Kind.Named (Text.lowercase (.ofList word)) kind) : Written text ⟨kind, 0⟩
  | indexed {text front back word numeral : List Char} {kind : Kind} {number : Nat}
    (whole : Text.Padded (front ++ ':' :: back) text)
    (left : Text.Padded word front) (named : Kind.Named (Text.lowercase (.ofList word)) kind)
    (right : Text.Padded numeral back) (counted : Numeral numeral number) (small : number ≤ 4294967295) :
    Written text ⟨kind, .ofNat number⟩

theorem Kind.exists_named_iff {name : String} : (∃ kind, Named name kind) ↔ IsName name := by
  constructor
  · rintro ⟨kind, named⟩
    cases named with
    | cpu => exact ⟨by decide, List.all_eq_true.mp (by decide)⟩
    | gpu => exact ⟨by decide, List.all_eq_true.mp (by decide)⟩
    | cuda => exact ⟨by decide, List.all_eq_true.mp (by decide)⟩
    | other word own => exact word
  · intro word
    by_cases cpu : name = "cpu"
    · exact ⟨.cpu, cpu ▸ Named.cpu⟩
    by_cases gpu : name = "gpu"
    · exact ⟨.gpu, gpu ▸ Named.gpu⟩
    by_cases cuda : name = "cuda"
    · exact ⟨.gpu, cuda ▸ Named.cuda⟩
    exact ⟨.other name, .other word ⟨cpu, gpu, cuda⟩⟩

theorem Kind.parse_eq_ok_iff {text : String} {kind : Kind} :
    Kind.parse text = .ok kind ↔ Named (Text.lowercase (Text.trim text)) kind := by
  have lower : ∀ c ∈ (Text.lowercase (Text.trim text)).toList, c.isUpper = false := by
    intro c member
    rw [Text.lowercase, String.toList_ofList] at member
    exact Text.isUpper_of_mem_lowerFrom member
  unfold Kind.parse
  generalize Text.lowercase (Text.trim text) = name at lower
  constructor
  · intro parsed
    dsimp only at parsed
    split at parsed
    · cases parsed
    next some =>
    split at parsed
    next cpu => cases parsed; exact cpu ▸ Named.cpu
    next notCpu =>
    split at parsed
    next gpu =>
      cases parsed
      rcases gpu with rfl | rfl
      · exact .gpu
      · exact .cuda
    next notGpu =>
    split at parsed
    next all =>
      cases parsed
      have word : IsName name := ⟨some, fun c member =>
        isCanonicalChar_of_lower (List.all_eq_true.mp all c member) (lower c member)⟩
      exact .other word ⟨notCpu, fun gpu => notGpu (.inl gpu), fun cuda => notGpu (.inr cuda)⟩
    next => cases parsed
  · intro named
    cases named with
    | cpu => rfl
    | gpu => rfl
    | cuda => rfl
    | other word own =>
      obtain ⟨some, chars⟩ := word
      obtain ⟨notCpu, notGpu, notCuda⟩ := own
      have all : name.toList.all isNameChar :=
        List.all_eq_true.mpr fun c member => (of_isCanonicalChar (chars c member)).2.1
      simp only [some, notCpu, notGpu, notCuda, or_self, if_false]
      exact if_pos all

theorem Kind.black_of_isName {word : List Char} (name : IsName (Text.lowercase (.ofList word))) :
    word ≠ [] ∧ (∀ c ∈ word, ¬ Text.isBlank c) ∧ ':' ∉ word := by
  obtain ⟨some, chars⟩ := name
  rw [Text.lowercase, String.toList_ofList, String.toList_ofList] at chars
  have kept {c : Char} (member : c ∈ word) (plain : c ≠ 'Σ') (fixed : Text.lowerChar c = [c]) : isCanonicalChar c :=
    chars c (Text.mem_lowerFrom member plain fixed [])
  refine ⟨?_, ?_, ?_⟩
  · rintro rfl
    exact some rfl
  · intro c member white
    have plain : c ≠ 'Σ' := by
      rintro rfl
      exact absurd white (by decide)
    exact (of_isCanonicalChar (kept member plain (Text.lowerChar_of_blank white))).2.2.1 white
  · intro member
    exact (of_isCanonicalChar (kept member (by decide) (by decide))).2.2.2 rfl

def unsigned : List Char → List Char
  | '+' :: run => run
  | run => run

theorem unsigned_of_ne {text : List Char} (plain : ∀ run, text ≠ '+' :: run) : unsigned text = text := by
  unfold unsigned
  split
  next run => exact absurd rfl (plain run)
  next => rfl

theorem numeral_iff {text : List Char} {number : Nat} :
    Numeral text number ↔ Decimal.natural? (unsigned text) = some number := by
  rw [Decimal.natural?_eq_some_iff]
  constructor
  · rintro ⟨digits, rfl | rfl, some, all, value⟩
    · have plain : ∀ run, text ≠ '+' :: run := by
        rintro run rfl
        exact absurd (all '+' List.mem_cons_self) (by decide)
      rw [unsigned_of_ne plain]
      exact ⟨some, all, value⟩
    · exact ⟨some, all, value⟩
  · intro number
    refine ⟨unsigned text, ?_, number⟩
    unfold unsigned
    split
    · exact .inr rfl
    · exact .inl rfl

theorem index?_eq_some_iff {text : List Char} {index : UInt32} :
    index? text = some index ↔ ∃ number ≤ 4294967295, Numeral text number ∧ index = .ofNat number := by
  have form : index? text = (Decimal.natural? (unsigned text)).bind fun number =>
      if number < UInt32.size then some (.ofNat number) else none := by
    unfold index? unsigned
    dsimp only
    cases Decimal.natural? _ <;> rfl
  simp only [form, Option.bind_eq_some_iff, numeral_iff]
  constructor
  · rintro ⟨number, read, fits⟩
    split at fits
    next small =>
      cases fits
      exact ⟨number, Nat.le_of_lt_succ small, read, rfl⟩
    next => cases fits
  · rintro ⟨number, small, read, rfl⟩
    exact ⟨number, read, if_pos (Nat.lt_succ_of_le small)⟩

theorem Numeral.black {text : List Char} {number : Nat} (numeral : Numeral text number) :
    text ≠ [] ∧ ∀ c ∈ text, ¬ Text.isBlank c := by
  obtain ⟨digits, form, some, all, -⟩ := numeral
  have black : ∀ c ∈ digits, ¬ Text.isBlank c := by
    intro c member white
    have fixed := Kind.of_isCanonicalChar (c := c) (by simp [Kind.isCanonicalChar, all c member])
    exact fixed.2.2.1 white
  rcases form with rfl | rfl
  · exact ⟨some, black⟩
  · refine ⟨List.cons_ne_nil _ _, fun c member => ?_⟩
    rcases List.mem_cons.mp member with rfl | member
    · decide
    · exact black c member

theorem splitColon_eq_none_iff {text : List Char} : splitColon text = none ↔ ':' ∉ text := by
  induction text with
  | nil => simp [splitColon]
  | cons c rest ih =>
    rw [splitColon]
    by_cases colon : c = ':'
    · simp [colon]
    · simp [colon, ih, Ne.symm colon]

theorem splitColon_eq_some {text front back : List Char} (split : splitColon text = some (front, back)) :
    text = front ++ ':' :: back := by
  induction text generalizing front with
  | nil => cases split
  | cons c rest ih =>
    rw [splitColon] at split
    by_cases colon : c = ':'
    · rw [if_pos colon] at split
      cases split
      rw [colon]
      rfl
    · rw [if_neg colon] at split
      obtain ⟨⟨head, tail⟩, found, same⟩ := Option.map_eq_some_iff.mp split
      cases same
      rw [ih found]
      rfl

theorem colon_not_mem_of_padded {word text : List Char} (padded : Text.Padded word text) (plain : ':' ∉ word) :
    ':' ∉ text := by
  obtain ⟨before, after, whiteBefore, whiteAfter, rfl⟩ := padded
  have black : ¬ Text.isBlank ':' := by decide
  simp only [List.mem_append, not_or]
  exact ⟨⟨fun member => black (whiteBefore _ member), plain⟩, fun member => black (whiteAfter _ member)⟩

theorem trimChars_parts {text front back word numeral : List Char} (whole : Text.Padded (front ++ ':' :: back) text)
    (left : Text.Padded word front) (right : Text.Padded numeral back)
    (first : word ≠ [] ∧ ∀ c ∈ word, ¬ Text.isBlank c) (last : numeral ≠ [] ∧ ∀ c ∈ numeral, ¬ Text.isBlank c) :
    ∃ front back, Text.trimChars text = front ++ ':' :: back ∧ Text.Padded word front ∧ Text.Padded numeral back := by
  obtain ⟨outerBefore, outerAfter, whiteOuterBefore, whiteOuterAfter, rfl⟩ := whole
  obtain ⟨before, middle, whiteBefore, whiteMiddle, rfl⟩ := left
  obtain ⟨middle', after, whiteMiddle', whiteAfter, rfl⟩ := right
  refine ⟨word ++ middle, middle' ++ numeral, ?_, ⟨[], middle, nofun, whiteMiddle, rfl⟩,
    ⟨middle', [], whiteMiddle', nofun, (List.append_nil _).symm⟩⟩
  refine Text.trimChars_of_padded ⟨outerBefore ++ before, after ++ outerAfter, whiteOuterBefore.append whiteBefore,
    whiteAfter.append whiteOuterAfter, by simp⟩ ?_ ?_
  · obtain ⟨c, rest, rfl⟩ := List.exists_cons_of_ne_nil first.1
    exact ⟨c, _, rfl, first.2 c List.mem_cons_self⟩
  · refine ⟨word ++ middle ++ ':' :: (middle' ++ numeral.dropLast), numeral.getLast last.1, ?_,
      last.2 _ (List.getLast_mem last.1)⟩
    simp only [List.append_assoc, List.cons_append, List.dropLast_concat_getLast last.1]

theorem written_of_parse {text : String} {device : Device} (parsed : parse text = .ok device) :
    Written text.toList device := by
  have whole := Text.padded_trimChars text.toList
  unfold parse at parsed
  split at parsed
  next =>
    cases kindly : Kind.parse text with
    | error error => rw [kindly] at parsed; cases parsed
    | ok kind =>
      rw [kindly] at parsed
      cases parsed
      exact .bare whole (Kind.parse_eq_ok_iff.mp kindly)
  next front back split =>
    split at parsed
    next index numbered =>
      cases kindly : Kind.parse (.ofList front) with
      | error error => rw [kindly] at parsed; cases parsed
      | ok kind =>
        rw [kindly] at parsed
        cases parsed
        obtain ⟨number, small, counted, rfl⟩ := index?_eq_some_iff.mp numbered
        rw [splitColon_eq_some split] at whole
        have named := Kind.parse_eq_ok_iff.mp kindly
        rw [Text.trim, String.toList_ofList] at named
        exact .indexed whole (Text.padded_trimChars front) named (Text.padded_trimChars back) counted small
    next => cases parsed

theorem parse_of_written {text : String} {device : Device} (written : Written text.toList device) :
    parse text = .ok device := by
  cases written with
  | @bare word kind padded named =>
    obtain ⟨some, black, plain⟩ := Kind.black_of_isName (Kind.exists_named_iff.mp ⟨kind, named⟩)
    have trimmed := Text.trimChars_of_black padded some black
    have kindly : Kind.parse text = .ok kind := Kind.parse_eq_ok_iff.mpr (by rwa [Text.trim, trimmed])
    rw [parse, trimmed, splitColon_eq_none_iff.mpr plain]
    simp only [kindly]
    rfl
  | @indexed front back word numeral kind number whole left named right counted small =>
    obtain ⟨some, black, plain⟩ := Kind.black_of_isName (Kind.exists_named_iff.mp ⟨kind, named⟩)
    obtain ⟨front', back', trimmed, left, right⟩ := trimChars_parts whole left right ⟨some, black⟩ counted.black
    have colon : ∀ c ∈ front', c ≠ ':' := by
      rintro c member rfl
      exact colon_not_mem_of_padded left plain member
    have kindly : Kind.parse (.ofList front') = .ok kind := by
      rw [Kind.parse_eq_ok_iff, Text.trim, String.toList_ofList, Text.trimChars_of_black left some black]
      exact named
    have numbered := index?_eq_some_iff.mpr ⟨number, small, counted, rfl⟩
    rw [parse, trimmed, splitColon_append colon]
    simp only [Text.trimChars_of_black right counted.black.1 counted.black.2, numbered, kindly]
    rfl

theorem parse_text_iff {device : Device} : parse device.text = .ok device ↔ device.IsCanonical :=
  ⟨isCanonical_of_parse, parse_text⟩

/--
A text is read as a device exactly if it stands for it in the grammar, a device is read back from its written form
exactly if it is canonical, and all that is read is canonical, so that its written form tells it from all others.
-/
theorem devices_read_as_written :
    (∀ text device, parse text = .ok device ↔ Written text.toList device) ∧
    (∀ device, parse device.text = .ok device ↔ device.IsCanonical) ∧
    (∀ text, (parse text).bind (fun device => parse device.text) = parse text) ∧
    ∀ text other device device', parse text = .ok device → parse other = .ok device' →
      device.IsCanonical ∧ (device.text = device'.text → device = device') := by
  refine ⟨fun text device => ⟨written_of_parse, parse_of_written⟩, fun device => parse_text_iff, ?_, ?_⟩
  · intro text
    cases parsed : parse text with
    | error error => rfl
    | ok device => exact parse_text (isCanonical_of_parse parsed)
  · intro text other device device' parsed parsed'
    have canonical := isCanonical_of_parse parsed
    refine ⟨canonical, fun same => ?_⟩
    have back := parse_text canonical
    rw [same, parse_text (isCanonical_of_parse parsed')] at back
    exact (Except.ok.inj back).symm

theorem devices_read_as_written_kelvin :
    parse " \u212apu\u00a0: +07" = .ok ⟨.other "kpu", 7⟩ ∧ parse "\tCuda" = .ok (.gpu 0) ∧
      Written " \u212apu\u00a0: +07".toList ⟨.other "kpu", 7⟩ ∧ parse "kpu:7" = .ok ⟨.other "kpu", 7⟩ ∧
      (Device.mk (.other "kpu") 7).IsCanonical ∧ (Device.mk (.other "kpu") 7).text ≠ (gpu 0).text := by
  obtain ⟨grammar, canonical, -, told⟩ := devices_read_as_written
  have padded : parse " \u212apu\u00a0: +07" = .ok ⟨.other "kpu", 7⟩ := by rfl
  have cuda : parse "\tCuda" = .ok (.gpu 0) := by rfl
  obtain ⟨own, apart⟩ := told _ _ _ _ padded cuda
  exact ⟨padded, cuda, (grammar _ _).mp padded, (canonical _).mpr own, own, fun same => absurd (apart same) (by decide)⟩

end Device

end CallProfile
