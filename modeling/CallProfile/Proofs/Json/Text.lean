import CallProfile.Proofs.Json.Reads

namespace CallProfile.Json.Reader

variable {rest after : List Symbol}

theorem hexValue?_hexDigit {digit : Nat} (small : digit < 16) : hexValue? (hexDigit digit) = some digit := by
  revert digit
  decide

theorem reads_letterEscape {letter c : Char} (escape? : letterEscape? letter = some c) :
    Reads escape (.char letter :: rest) c rest := by
  have notNumeric : letter ≠ 'u' := by
    rintro rfl
    simp [letterEscape?] at escape?
  refine reads_look.bind ?_
  simp only [List.head?_cons, notNumeric, if_false, escape?]
  exact reads_pure.past

theorem reads_numericEscape {c : Char} (control : c < ' ') :
    Reads escape
      (written ['u', '0', '0', hexDigit (c.toNat / 16), hexDigit (c.toNat % 16)] ++ rest) c rest := by
  have small : c.toNat < 32 := control
  have unit : hexUnit? (written ['0', '0', hexDigit (c.toNat / 16), hexDigit (c.toNat % 16)] ++ rest) =
      some c.toNat := by
    have zero : hexValue? '0' = some 0 := rfl
    have digits : c.toNat / 16 * 16 + c.toNat % 16 = c.toNat := Nat.div_add_mod' c.toNat 16
    simp [hexUnit?, zero, hexValue?_hexDigit (show c.toNat / 16 < 16 by omega),
      hexValue?_hexDigit (show c.toNat % 16 < 16 by omega), digits]
  have readsUnit : Reads hexUnit
      (written ['0', '0', hexDigit (c.toNat / 16), hexDigit (c.toNat % 16)] ++ rest) c.toNat rest := by
    intro cursor same
    refine ⟨cursor.next.next.next.next, by simp [Cursor.next, same], ?_⟩
    simp only [hexUnit, same, unit]
  have trailing : isTrailing c.toNat = false := by simp [isTrailing]; omega
  have leading : isLeading c.toNat = false := by simp [isLeading]; omega
  refine reads_look.bind (Reads.past (readsUnit.bind ?_))
  simp only [trailing, leading, Bool.false_eq_true, if_false, Char.ofNat_toNat]
  exact reads_pure

theorem escapeChar_cases (c : Char) :
    (∃ letter, letterEscape? letter = some c ∧ escapeChar c = ['\\', letter]) ∨
      (c < ' ' ∧ escapeChar c = ['\\', 'u', '0', '0', hexDigit (c.toNat / 16), hexDigit (c.toNat % 16)]) ∨
      (c ≠ '"' ∧ c ≠ '\\' ∧ ¬ c < ' ' ∧ escapeChar c = [c]) := by
  by_cases quote : c = '"'
  · exact .inl ⟨'"', by subst quote; rfl, by subst quote; rfl⟩
  by_cases slash : c = '\\'
  · exact .inl ⟨'\\', by subst slash; rfl, by subst slash; rfl⟩
  by_cases backspace : c = '\x08'
  · exact .inl ⟨'b', by subst backspace; rfl, by subst backspace; rfl⟩
  by_cases tab : c = '\t'
  · exact .inl ⟨'t', by subst tab; rfl, by subst tab; rfl⟩
  by_cases newline : c = '\n'
  · exact .inl ⟨'n', by subst newline; rfl, by subst newline; rfl⟩
  by_cases feed : c = '\x0c'
  · exact .inl ⟨'f', by subst feed; rfl, by subst feed; rfl⟩
  by_cases enter : c = '\r'
  · exact .inl ⟨'r', by subst enter; rfl, by subst enter; rfl⟩
  have others : escapeChar c = if c < ' ' then ['\\', 'u', '0', '0', hexDigit (c.toNat / 16),
      hexDigit (c.toNat % 16)] else [c] := by
    simp only [escapeChar, quote, slash, backspace, tab, newline, feed, enter, if_false]
  by_cases control : c < ' '
  · exact .inr (.inl ⟨control, others.trans (if_pos control)⟩)
  · exact .inr (.inr ⟨quote, slash, control, others.trans (if_neg control)⟩)

theorem Reads.escapeChar {c : Char} {steps : Nat} {before : List Char} {content : String}
    (reads : Reads (textFrom steps none (c :: before)) rest content after) :
    Reads (textFrom (steps + 1) none before) (written (escapeChar c) ++ rest) content after := by
  have escaped {body : List Symbol} (taken : Reads escape body c rest) :
      Reads (textFrom (steps + 1) none before) (.char '\\' :: body) content after :=
    reads_look.bind (Reads.past (taken.bind reads))
  rcases escapeChar_cases c with ⟨letter, escape?, form⟩ | ⟨control, form⟩ | ⟨notQuote, notSlash, visible, form⟩
  · rw [form]
    exact escaped (reads_letterEscape escape?)
  · rw [form]
    exact escaped (reads_numericEscape control)
  · rw [form]
    refine reads_look.bind ?_
    simp only [written, List.map_cons, List.map_nil, List.cons_append, List.nil_append, List.head?_cons]
    rw [if_neg visible]
    exact reads.past

theorem reads_textFrom (content : List Char) {steps : Nat} (enough : content.length < steps) (before : List Char) :
    Reads (textFrom steps none before) (written (content.flatMap escapeChar) ++ .char '"' :: after)
      (.ofList (before.reverse ++ content)) after := by
  induction content generalizing steps before with
  | nil =>
    obtain ⟨steps, rfl⟩ := Nat.exists_eq_add_one.mpr (Nat.zero_lt_of_lt enough)
    rw [List.append_nil]
    exact reads_look.bind reads_pure.past
  | cons c content ih =>
    obtain ⟨steps, rfl⟩ := Nat.exists_eq_add_one.mpr (Nat.zero_lt_of_lt enough)
    have fewer : content.length < steps := by simpa using enough
    have tail := ih fewer (c :: before)
    rw [List.reverse_cons, List.append_assoc, List.singleton_append] at tail
    rw [List.flatMap_cons, written, List.map_append, List.append_assoc]
    exact tail.escapeChar

theorem length_le_flatMap_escapeChar (content : List Char) :
    content.length ≤ (content.flatMap escapeChar).length := by
  have some (c : Char) : 1 ≤ (escapeChar c).length := by
    unfold escapeChar
    repeat' split
    all_goals simp
  induction content with
  | nil => simp
  | cons c content ih =>
    have first := some c
    rw [List.flatMap_cons, List.length_cons, List.length_append]
    omega

theorem reads_textBody (content : String) :
    Reads textBody (written (content.toList.flatMap escapeChar) ++ .char '"' :: after) content after := by
  have length := length_le_flatMap_escapeChar content.toList
  have enough : content.toList.length <
      (written (content.toList.flatMap escapeChar) ++ .char '"' :: after).length + 1 := by
    simp only [List.length_append, List.length_map, List.length_cons]
    omega
  have body : Reads _ (_ ++ .char '"' :: after) _ after := reads_textFrom content.toList enough []
  rw [List.reverse_nil, List.nil_append, String.ofList_toList] at body
  exact body.withSteps

theorem written_quote (content : String) :
    written (quote content) ++ after =
      .char '"' :: (written (content.toList.flatMap escapeChar) ++ .char '"' :: after) := by
  simp [quote]

theorem reads_key (content : String) : Reads key (written (quote content) ++ after) content after := by
  rw [written_quote]
  exact (reads_textBody content).past

theorem reads_text {gap : List Symbol} (blank : Blank gap) (expected content : String) :
    Reads (text expected) (gap ++ (written (quote content) ++ after)) content after := by
  rw [written_quote]
  have notSpace : ¬ (Symbol.char '"').isSpace := by decide
  refine ((reads_lookPastSpace_cons blank notSpace).bind ?_).placed
  exact (reads_textBody content).past

end CallProfile.Json.Reader
