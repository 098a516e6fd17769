import DirectiveLint.Proofs.Text.Pieces
import DirectiveLint.Proofs.Text.Slice
import DirectiveLint.Proofs.Validator.Numeral

/-!
# Values that are cut at byte offsets

`StringValue` is the grammar of strings and `RelativeStart` that of delays.  The tests for both
cut the text at byte offsets.  They always have an outcome, so that no offset is inside a
character, and they accept exactly the texts of the two grammars
(`Builtin.accepts_string_and_delay_iff`).
-/

namespace DirectiveLint

/-- A bare word or a quoted text. -/
inductive StringValue : Text → Prop where
  /-- A text between two quotes of one kind, without a further quote of that kind. -/
  | quoted {q : Char} {inner : Text} (hq : q = '"' ∨ q = '\'') (hinner : q ∉ inner) :
    StringValue ([q] ++ inner ++ [q])
  /-- A word without white space and without quotes of either kind. -/
  | word {t : Text} (hne : t ≠ [])
      (h : ∀ c ∈ t, Unicode.isBlank c = false ∧ c ≠ '"' ∧ c ≠ '\'') :
    StringValue t

/-- A start relative to now. -/
inductive RelativeStart : Text → Prop where
  /-- A count alone. -/
  | count {count : Text} {n : Nat} (hcount : Numeral count n) :
    RelativeStart ("now+".toList ++ count)
  /-- A count of units. -/
  | units {count unit : Text} {n : Nat} (hcount : Numeral count n)
      (hunit : unit ∈ ["second".toList, "seconds".toList, "minute".toList, "minutes".toList,
        "hour".toList, "hours".toList, "day".toList, "days".toList, "week".toList,
        "weeks".toList]) :
    RelativeStart ("now+".toList ++ (count ++ unit))

/-! ### Strings -/

theorem isQuote_iff {c : Char} :
  isQuote c = true ↔ c = '"' ∨ c = '\''
  := by
  simp [isQuote]

theorem utf8Size_of_isQuote {q : Char} (hq : isQuote q = true) :
  q.utf8Size = 1
  := by
  rcases isQuote_iff.mp hq with rfl | rfl
  · rfl
  · rfl

/-- Behind its first and before its last byte, a quoted text holds what is between the quotes. -/
theorem slice?_quoted {q : Char} (hq : isQuote q = true) (inner : Text) :
  Span.slice? ⟨1, byteLength ([q] ++ inner ++ [q]) - 1⟩ ([q] ++ inner ++ [q]) = some inner
  := by
  have hsize : byteLength [q] = 1 := utf8Size_of_isQuote hq
  rw [Span.slice?_eq_some_iff]
  refine ⟨[q], [q], rfl, ?_⟩
  rw [byteLength_append, byteLength_append, hsize, Nat.add_sub_cancel]

/-- A text of two bytes or more that starts and ends with a quote has two of them. -/
theorem exists_eq_quoted_iff {q : Char} (hq : isQuote q = true) (rest : Text) :
  (2 ≤ byteLength (q :: rest) && (q :: rest).getLast? == some q) = true
    ↔ ∃ inner, q :: rest = [q] ++ inner ++ [q]
  := by
  have hsize := utf8Size_of_isQuote hq
  rw [Bool.and_eq_true, decide_eq_true_iff, beq_iff_eq]
  constructor
  · rintro ⟨hlength, hlast⟩
    cases rest using List.reverseRecOn with
    | nil =>
      rw [byteLength_cons, byteLength_nil, hsize] at hlength
      contradiction
    | append_singleton inner c =>
      rw [← List.cons_append, List.getLast?_concat] at hlast
      obtain rfl := Option.some.inj hlast
      exact ⟨inner, rfl⟩
  · rintro ⟨inner, h⟩
    rw [h, List.getLast?_concat, byteLength_append, byteLength_append, byteLength_cons, hsize]
    exact ⟨by omega, rfl⟩

theorem testString?_quoted {q : Char} (hq : isQuote q = true) (inner : Text) :
  testString? ([q] ++ inner ++ [q]) = some (!inner.contains q)
  := by
  have hquoted := (exists_eq_quoted_iff hq (inner ++ [q])).mpr ⟨inner, rfl⟩
  have hslice : Span.slice? ⟨1, byteLength (q :: (inner ++ [q])) - 1⟩ (q :: (inner ++ [q]))
      = some inner := slice?_quoted hq inner
  change testString? (q :: (inner ++ [q])) = _
  rw [testString?, if_pos hq, if_pos hquoted, hslice]
  rfl

theorem testString?_unclosed {q : Char} (hq : isQuote q = true) {rest : Text}
    (h : ¬∃ inner, q :: rest = [q] ++ inner ++ [q]) :
  testString? (q :: rest) = some false
  := by
  rw [testString?, if_pos hq, if_neg (mt (exists_eq_quoted_iff hq rest).mp h)]

theorem testString?_word {c : Char} (hc : isQuote c = false) (rest : Text) :
  testString? (c :: rest) = some (!(c :: rest).any fun d => Unicode.isBlank d || isQuote d)
  := by
  rw [testString?, if_neg (by simp [hc])]

/-- The test for strings always has an outcome, because a quote is one byte long. -/
theorem exists_testString? (t : Text) :
  ∃ b, testString? t = some b
  := by
  cases t with
  | nil => exact ⟨false, rfl⟩
  | cons c rest =>
    cases hc : isQuote c with
    | false => exact ⟨_, testString?_word hc rest⟩
    | true =>
      by_cases h : ∃ inner, c :: rest = [c] ++ inner ++ [c]
      · obtain ⟨inner, h⟩ := h
        rw [h]
        exact ⟨_, testString?_quoted hc inner⟩
      · exact ⟨false, testString?_unclosed hc h⟩

theorem testString?_eq_some_true_iff {t : Text} :
  testString? t = some true ↔ StringValue t
  := by
  constructor
  · intro h
    cases t with
    | nil => contradiction
    | cons c rest =>
      cases hc : isQuote c with
      | false =>
        rw [testString?_word hc, Option.some.injEq] at h
        apply StringValue.word (List.cons_ne_nil c rest)
        simpa [isQuote] using h
      | true =>
        by_cases hquoted : ∃ inner, c :: rest = [c] ++ inner ++ [c]
        · obtain ⟨inner, heq⟩ := hquoted
          rw [heq] at h ⊢
          rw [testString?_quoted hc, Option.some.injEq] at h
          apply StringValue.quoted (isQuote_iff.mp hc)
          simpa using h
        · rw [testString?_unclosed hc hquoted] at h
          contradiction
  · intro h
    cases h with
    | quoted hq hinner =>
      rw [testString?_quoted (isQuote_iff.mpr hq)]
      simpa using hinner
    | word hne h =>
      obtain ⟨c, rest, rfl⟩ := List.exists_cons_of_ne_nil hne
      have hc : isQuote c = false := by simpa [isQuote] using (h c List.mem_cons_self).2
      rw [testString?_word hc]
      simpa [isQuote] using h

theorem testString?_eq (t : Text) :
  testString? t = some (isString t)
  := by
  obtain ⟨b, hb⟩ := exists_testString? t
  rw [isString, hb]
  rfl

theorem isString_iff {t : Text} :
  isString t = true ↔ StringValue t
  := by
  rw [← testString?_eq_some_true_iff, testString?_eq, Option.some.injEq]

/-! ### Delays -/

/-- A text is parted behind its digits into them and the rest. -/
theorem cutAtOffset?_digitsEnd (t : Text) :
  cutAtOffset? (digitsEnd t) t = some (t.takeWhile Char.isDigit, t.dropWhile Char.isDigit)
  := by
  rw [cutAtOffset?_eq_some_iff]
  constructor
  · apply List.takeWhile_append_dropWhile.symm
  · apply offsetWhere?_getD

theorem testDelay?_append (rest : Text) :
  testDelay? ("now+".toList ++ rest)
    = some (!(rest.takeWhile Char.isDigit).isEmpty
        && ((rest.dropWhile Char.isDigit).isEmpty
          || delayUnits.contains (rest.dropWhile Char.isDigit)))
  := by
  have hprefix : dropPrefix? "now+".toList ("now+".toList ++ rest) = some rest :=
    dropPrefix?_eq_some_iff.mpr rfl
  simp only [testDelay?, hprefix, cutAtOffset?_digitsEnd]
  rfl

/-- The test for delays always has an outcome, because the count ends at a boundary. -/
theorem exists_testDelay? (t : Text) :
  ∃ b, testDelay? t = some b
  := by
  cases hprefix : dropPrefix? "now+".toList t with
  | none => exact ⟨false, by rw [testDelay?, hprefix]⟩
  | some rest =>
    rw [dropPrefix?_eq_some_iff.mp hprefix]
    exact ⟨_, testDelay?_append rest⟩

/-- What follows the count of a delay is read as its unit, unless it goes on with digits. -/
theorem testDelay?_count {count : Text} {n : Nat} (hcount : Numeral count n) (unit : Text)
    (hunit : ∀ c ∈ unit.head?, c.isDigit = false) :
  testDelay? ("now+".toList ++ (count ++ unit)) = some (unit.isEmpty || delayUnits.contains unit)
  := by
  obtain ⟨hne, hdigits⟩ := isDigits_iff.mp (numeral_iff.mp hcount).1
  obtain ⟨htake, hdrop⟩ := takeWhile_eq_and_dropWhile_eq_iff.mpr ⟨rfl, hdigits, hunit⟩
  rw [testDelay?_append, htake, hdrop]
  simp [hne]

/-- No unit starts with a digit. -/
theorem isDigit_head_of_mem_delayUnits {unit : Text} (h : unit ∈ delayUnits) :
  ∀ c ∈ unit.head?, c.isDigit = false
  := by
  have hall : (delayUnits.all fun u => u.head?.all fun c => !c.isDigit) = true := rfl
  simpa [Option.all_eq_true] using List.all_eq_true.mp hall unit h

theorem testDelay?_eq_some_true_iff {t : Text} :
  testDelay? t = some true ↔ RelativeStart t
  := by
  constructor
  · intro h
    cases hprefix : dropPrefix? "now+".toList t with
    | none =>
      rw [testDelay?, hprefix] at h
      contradiction
    | some rest =>
      obtain rfl := dropPrefix?_eq_some_iff.mp hprefix
      obtain ⟨hrest, hdigits, -⟩ :=
        takeWhile_eq_and_dropWhile_eq_iff (p := Char.isDigit) (t := rest).mp ⟨rfl, rfl⟩
      rw [testDelay?_append, Option.some.injEq, Bool.and_eq_true, Bool.or_eq_true] at h
      obtain ⟨hne, hunit⟩ := h
      have hcount := numeral_iff.mpr ⟨isDigits_iff.mpr ⟨by simpa using hne, hdigits⟩, rfl⟩
      rw [hrest]
      rcases hunit with hempty | hunit
      · rw [List.isEmpty_iff.mp hempty, List.append_nil]
        apply RelativeStart.count hcount
      · apply RelativeStart.units hcount (List.contains_iff_mem.mp hunit)
  · intro h
    cases h with
    | @count count n hcount =>
      simpa using testDelay?_count hcount [] (by simp)
    | @units count unit n hcount hunit =>
      have hstart := isDigit_head_of_mem_delayUnits hunit
      have hlisted : delayUnits.contains unit = true := List.contains_iff_mem.mpr hunit
      rw [testDelay?_count hcount unit hstart, hlisted, Bool.or_true]

theorem testDelay?_eq (t : Text) :
  testDelay? t = some (isDelay t)
  := by
  obtain ⟨b, hb⟩ := exists_testDelay? t
  rw [isDelay, hb]
  rfl

theorem isDelay_iff {t : Text} :
  isDelay t = true ↔ RelativeStart t
  := by
  rw [← testDelay?_eq_some_true_iff, testDelay?_eq, Option.some.injEq]

/-! ### Both kinds -/

/-- The builtin validators for strings and for delays accept the texts of their grammars and
nothing else.  A text has slices and parts only at the boundaries of its characters, and yet the
tests have an outcome for every text: no offset on the way is inside a character. -/
theorem Builtin.accepts_string_and_delay_iff :
  (∀ t, Builtin.string.accepts t = true ↔ StringValue t)
    ∧ (∀ t, Builtin.delay.accepts t = true ↔ RelativeStart t)
    ∧ (∀ t, testString? t = some (Builtin.string.accepts t))
    ∧ (∀ t, testDelay? t = some (Builtin.delay.accepts t))
    ∧ (∀ (s : Span) (t : Text), (∃ inner, s.slice? t = some inner)
      ↔ IsBoundary t s.start ∧ IsBoundary t s.stop ∧ s.start ≤ s.stop)
    ∧ ∀ offset t, (∃ parts, cutAtOffset? offset t = some parts) ↔ IsBoundary t offset
  := by
  refine ⟨?_, ?_, testString?_eq, testDelay?_eq, ?_, ?_⟩
  · intro t
    apply isString_iff
  · intro t
    apply isDelay_iff
  · intro s t
    apply Span.exists_slice?_iff
  · intro offset t
    apply exists_cutAtOffset?_iff

/-- Characters of several bytes stand between the quotes, at the end, and behind the digits. -/
example : Builtin.string.accepts "\"é\"".toList = true
    ∧ Builtin.string.accepts "'é".toList = false
    ∧ Builtin.delay.accepts "now+1é".toList = false := by decide

end DirectiveLint
