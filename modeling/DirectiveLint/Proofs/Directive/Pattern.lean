import DirectiveLint.Proofs.Directive.Canonical
import DirectiveLint.Proofs.Pattern.Captures
import DirectiveLint.Proofs.Pattern.Written
import DirectiveLint.Proofs.Text.Slice

/-!
# The pattern of directive lines

The written form of the pattern is read as the expression that lines are searched for, whatever
the tag (`Directive.part?_patternText`).  A search finds it exactly in the lines that start with
the tag, and its groups then mark the slots that `Directive.read` cuts the line into
(`Directive.captures?_pattern`), so that reading through the pattern and cutting into slots tell
the same (`Directive.parse?_eq`).  Reading through the pattern undoes writing canonical slots one
behind the other (`Directive.parse_inverse_text`).
-/

namespace DirectiveLint

open Pattern

namespace Directive

/-! ### The written form -/

theorem written_restPattern :
  [')'] ++ restPattern.written = writtenBehind
  := by decide +kernel

theorem written_pattern (tag : Text) :
  (pattern tag).written = patternText tag
  := by
  rw [patternText, ← written_restPattern, ← Grouped.written_literal]
  simp only [pattern, Grouped.written, List.append_assoc]
  rfl

/-- The small letters of ASCII are alphabetic. -/
theorem isAlphabetic_of_le {c : Char} (hfirst : 0x61 ≤ c.toNat) (hlast : c.toNat ≤ 0x7A) :
  Unicode.isAlphabetic c = true
  := by
  have hranges : (Unicode.Category.ranges .ll).head? = some (0x61, 0x7A) := by decide +kernel
  obtain ⟨rest, hrest⟩ := List.head?_eq_some_iff.mp hranges
  have hsmall : Unicode.Category.ll.contains c.toNat = true := by
    rw [Unicode.Category.contains, hrest]
    simp [Unicode.Ranges.contains, hfirst, hlast]
  simp [Unicode.isAlphabetic, Unicode.isLetter, Unicode.isAmong, hsmall]

/-- The names of the groups consist of letters. -/
theorem isAlphabetic_name (s : Slot) :
  s.name ≠ [] ∧ ∀ c ∈ s.name, Unicode.isAlphabetic c = true ∧ c ≠ '>'
  := by
  have hname : s.name ≠ [] := by cases s <;> decide
  have hletters : (s.name.all fun c => 0x61 ≤ c.toNat ∧ c.toNat ≤ 0x7A ∧ c ≠ '>') = true := by
    cases s <;> rfl
  refine ⟨hname, fun c hc => ?_⟩
  obtain ⟨hfirst, hlast, hne⟩ := of_decide_eq_true (List.all_eq_true.mp hletters c hc)
  exact ⟨isAlphabetic_of_le hfirst hlast, hne⟩

theorem name_inj {s s' : Slot} :
  s.name = s'.name ↔ s = s'
  := by
  cases s <;> cases s' <;> decide

/-- A slot is read as one group. -/
theorem readsAs_slot {r : Grouped} {d : Nat} {parts : List Part} (s : Slot)
    (h : r.ReadsAs d parts []) :
  (Grouped.group s.name r).ReadsAs (d + 2) [Grouped.partOfGroup parts true] [s.name]
  := by
  obtain ⟨hne, hletters⟩ := isAlphabetic_name s
  apply h.group hne hletters List.not_mem_nil

theorem readsAs_space :
  ∃ p, spacePattern.ReadsAs 2 [p] [Slot.space.name]
  := by
  refine ⟨_, readsAs_slot .space (Grouped.readsAs_of_step (p := .ofSet (.single ' ') 0) rfl ?_ ?_)⟩
  · exact Nat.le_refl 0
  · intro group outer names u
    rfl

theorem readsAs_dashes :
  ∃ p, dashesPattern.ReadsAs 3 [p] [Slot.dashes.name]
  := by
  refine ⟨_, readsAs_slot .dashes (Grouped.readsAs_run
    (Grouped.readsAs_of_step (p := .ofSet (.single '-') 0) rfl ?_ ?_) ?_)⟩
  · exact Nat.le_refl 0
  · intro group outer names u
    rfl
  · intro group outer names u
    rfl

theorem readsAs_flag :
  ∃ p, flagPattern.ReadsAs 5 [p] [Slot.flag.name]
  := by
  refine ⟨_, readsAs_slot .flag (Grouped.readsAs_run
    (Grouped.readsAs_of_step (p := .ofSet (.compl separators) 2) rfl ?_ ?_) ?_)⟩
  · exact Nat.le_refl 2
  · intro group outer names u
    rfl
  · intro group outer names u
    rfl

theorem readsAs_value :
  ∃ parts, valuePattern.ReadsAs 4 parts [Slot.separator.name, Slot.value.name]
  := by
  have hset : Grouped.ReadsAs (.set "[= ]".toList separators) 2 [.ofSet separators 2] [] :=
    Grouped.readsAs_of_step rfl (Nat.le_refl 2) fun group outer names u => rfl
  have hdot : Grouped.ReadsAs (.set ['.'] .any) 1 [.ofSet .any 0] [] :=
    Grouped.readsAs_of_step rfl (Nat.zero_le 1) fun group outer names u => rfl
  have hrun : Grouped.ReadsAs (.run (['.'] ++ ['*']) .any 0 none) 2
      [(Part.ofSet .any 0).repeated 0 none] [] :=
    Grouped.readsAs_run hdot fun group outer names u => rfl
  have hseparator := readsAs_slot .separator hset
  have hvalue := readsAs_slot .value hrun
  refine ⟨_, hseparator.cat hvalue (List.cons_ne_nil _ _) ⟨'(', rfl, by decide⟩ ?_⟩
  simp [name_inj]

theorem readsAs_rest :
  ∃ parts, parts ≠ [] ∧ restPattern.ReadsAs 7 parts
    [Slot.space.name, Slot.dashes.name, Slot.flag.name, Slot.separator.name, Slot.value.name]
  := by
  obtain ⟨space, hspace⟩ := readsAs_space
  obtain ⟨dashes, hdashes⟩ := readsAs_dashes
  obtain ⟨flag, hflag⟩ := readsAs_flag
  obtain ⟨value, hvalue⟩ := readsAs_value
  have hstop : Grouped.ReadsAs (.look ['$'] .stop) 7 [.ofLook .stop] [] :=
    Grouped.readsAs_of_step rfl (Nat.zero_le 7) fun group outer names u => rfl
  have hvalued := (hvalue.hold.optional rfl).cat hstop (List.cons_ne_nil _ _)
    ⟨'$', rfl, by decide⟩ (List.forall_mem_nil _)
  have hflagged := (hflag.mono (by decide)).cat hvalued (List.cons_ne_nil _ _)
    ⟨'(', rfl, by decide⟩ (by simp [name_inj])
  have hdashed := ((hdashes.optional rfl).mono (by decide)).cat hflagged (List.cons_ne_nil _ _)
    ⟨'(', rfl, by decide⟩ (by simp [name_inj])
  have hspaced := ((hspace.optional rfl).mono (by decide)).cat hdashed (List.cons_ne_nil _ _)
    ⟨'(', rfl, by decide⟩ (by simp [name_inj])
  exact ⟨_, List.cons_ne_nil _ _, hspaced⟩

/-- Whatever the tag, the written form of the pattern is read as the pattern without its groups,
apart from the size of its automata. -/
theorem part?_patternText (tag : Text) :
  ∃ part, part? (patternText tag) = some part ∧ part.depth ≤ depthLimit
    ∧ part.regex = (pattern tag).regex
  := by
  obtain ⟨parts, hne, hrest⟩ := readsAs_rest
  have hstart : Grouped.ReadsAs (.look ['^'] .start) 7 [.ofLook .start] [] :=
    Grouped.readsAs_of_step rfl (Nat.zero_le 7) fun group outer names u => rfl
  have htag := readsAs_slot .tag (Grouped.readsAs_literal tag)
  have htagged := (htag.mono (by decide)).cat hrest hne ⟨'(', rfl, by decide⟩ (by simp [name_inj])
  have hwhole := hstart.cat htagged (List.cons_ne_nil _ _) ⟨'(', rfl, by decide⟩ (by simp)
  obtain ⟨part, hpart, hdepth, hregex⟩ := hwhole.part? (List.cons_ne_nil _ _)
  rw [← written_pattern]
  exact ⟨part, hpart, Nat.le_trans hdepth (by decide), hregex⟩

/-! ### Texts that stand for themselves -/

theorem mem_single (a : Char) :
  (CharSet.single a).mem = (· == a)
  := by
  funext c
  rw [Bool.eq_iff_iff, CharSet.single, CharSet.mem, Bool.and_eq_true, decide_eq_true_iff,
    decide_eq_true_iff, beq_iff_eq]
  constructor
  · rintro ⟨hfirst, hlast⟩
    exact Char.le_antisymm hlast hfirst
  · rintro rfl
    exact ⟨Char.le_refl c, Char.le_refl c⟩

theorem mem_separators :
  separators.mem = isSeparator
  := by
  funext c
  have hset : separators.mem c
      = ((CharSet.single '=').mem c || ((CharSet.single ' ').mem c || false)) := rfl
  rw [hset, mem_single, mem_single, Bool.or_false, isSeparator]

theorem prefers_literal {p : Position} {t rest : Text} (h : p.rest = t ++ rest) :
  (Grouped.literal t).Prefers p ⟨p.passed ++ t, rest, p.captures⟩
  := by
  have hchar (p : Position) (c : Char) (rest : Text) (h : p.rest = c :: rest) :
      Grouped.Prefers (.set (escapeChar c) (.single c)) p ⟨p.passed ++ [c], rest, p.captures⟩ := by
    have hset : Grouped.Prefers (.set (escapeChar c) (.single c)) p (p.advance 1) :=
      Grouped.prefers_set h (by simp [mem_single])
    rwa [Position.advance, h] at hset
  fun_induction Grouped.literal t generalizing p with
  | case1 =>
    rw [List.append_nil, ← List.nil_append rest, ← h]
    exact Grouped.prefers_nothing [] p
  | case2 c => exact hchar p c rest h
  | case3 c t hne ih =>
    have hmore := ih (p := ⟨p.passed ++ [c], t ++ rest, p.captures⟩) rfl
    rw [List.append_assoc, List.singleton_append] at hmore
    exact (hchar p c (t ++ rest) h).cat hmore

theorem prefix_of_mem_ways_literal {p q : Position} {t : Text}
    (h : q ∈ (Grouped.literal t).ways p) :
  t <+: p.rest
  := by
  have hchar (p q : Position) (c : Char)
      (h : q ∈ Grouped.ways (.set (escapeChar c) (.single c)) p) :
      ∃ rest, p.rest = c :: rest ∧ q.rest = rest := by
    rw [Grouped.ways, mem_single] at h
    split at h
    · next hc =>
      obtain rfl := List.mem_singleton.mp h
      cases hrest : p.rest with
      | nil => simp [hrest] at hc
      | cons a rest =>
        obtain rfl : a = c := by simpa [hrest] using hc
        exact ⟨rest, rfl, by rw [Position.advance, hrest]; rfl⟩
    · contradiction
  fun_induction Grouped.literal t generalizing p with
  | case1 => exact List.nil_prefix
  | case2 c =>
    obtain ⟨rest, hrest, -⟩ := hchar p q c h
    exact ⟨rest, hrest.symm⟩
  | case3 c t hne ih =>
    obtain ⟨m, hm, hq⟩ := List.mem_flatMap.mp h
    obtain ⟨rest, hrest, rfl⟩ := hchar p m c hm
    obtain ⟨behind, hbehind⟩ := ih hq
    exact ⟨behind, by rw [hrest, ← hbehind]; rfl⟩

/-! ### The groups of a line -/

/-- The captures with a slot marked, unless it is empty. -/
def marked (s : Slot) (span : Span) (captures : Captures) : Captures :=
  if span.isEmpty then captures else (s.name, span) :: captures

theorem marked_nil (s : Slot) (before : Text) (captures : Captures) :
  marked s (spanAfter before []) captures = captures
  := by
  simp [marked, spanAfter, Span.isEmpty]

theorem marked_of_ne_nil {slot : Text} (h : slot ≠ []) (s : Slot) (before : Text)
    (captures : Captures) :
  marked s (spanAfter before slot) captures = (s.name, spanAfter before slot) :: captures
  := by
  have hpos := byteLength_pos h
  rw [marked, spanAfter, Span.isEmpty, if_neg]
  simp
  omega

theorem prefers_space (before t : Text) (captures : Captures) :
  (Grouped.optional spacePattern).Prefers ⟨before, t, captures⟩
    ⟨before ++ (takeSpace t).1, (takeSpace t).2,
      marked .space (spanAfter before (takeSpace t).1) captures⟩
  := by
  unfold takeSpace
  split
  · next t =>
    rw [marked_of_ne_nil (List.cons_ne_nil _ _), spanAfter, ← byteLength_append]
    have hset : Grouped.Prefers (.set [' '] (.single ' ')) ⟨before, ' ' :: t, captures⟩
        (Position.advance ⟨before, ' ' :: t, captures⟩ 1) :=
      Grouped.prefers_set rfl (by rw [mem_single]; rfl)
    exact (hset.group Slot.space.name).optional
  · next hne =>
    rw [marked_nil, List.append_nil]
    apply Grouped.prefers_optional
    have hnone : t.head?.any (CharSet.single ' ').mem = false := by
      cases t with
      | nil => rfl
      | cons c t =>
        rw [mem_single]
        refine beq_eq_false_iff_ne.mpr ?_
        rintro rfl
        exact hne t rfl
    rw [spacePattern, Grouped.ways, Grouped.ways, hnone]
    rfl

theorem mem_counts_dashes_iff {n : Nat} {t : Text} :
  n ∈ counts (.single '-') 1 (some 2) t
    ↔ (1 ≤ n ∧ n ≤ 2) ∧ n ≤ t.length ∧ ∀ c ∈ t.take n, c = '-'
  := by
  rw [mem_counts_iff, mem_single]
  simp

theorem prefers_dashes (before t : Text) (captures : Captures) :
  (Grouped.optional dashesPattern).Prefers ⟨before, t, captures⟩
    ⟨before ++ (takeDashes t).1, (takeDashes t).2,
      marked .dashes (spanAfter before (takeDashes t).1) captures⟩
  := by
  unfold takeDashes
  split
  · next t =>
    rw [marked_of_ne_nil (List.cons_ne_nil _ _), spanAfter, ← byteLength_append]
    have hrun : Grouped.Prefers (.run (['-'] ++ "\x7b1,2\x7d".toList) (.single '-') 1 (some 2))
        ⟨before, '-' :: '-' :: t, captures⟩
        (Position.advance ⟨before, '-' :: '-' :: t, captures⟩ 2) := by
      apply Grouped.prefers_run
      · exact mem_counts_dashes_iff.mpr ⟨by decide, by simp, by simp⟩
      · intro n hn
        exact (mem_counts_dashes_iff.mp hn).1.2
    exact (hrun.group Slot.dashes.name).optional
  · next t hne =>
    rw [marked_of_ne_nil (List.cons_ne_nil _ _), spanAfter, ← byteLength_append]
    have hrun : Grouped.Prefers (.run (['-'] ++ "\x7b1,2\x7d".toList) (.single '-') 1 (some 2))
        ⟨before, '-' :: t, captures⟩ (Position.advance ⟨before, '-' :: t, captures⟩ 1) := by
      apply Grouped.prefers_run
      · exact mem_counts_dashes_iff.mpr ⟨by decide, by simp, by simp⟩
      · intro n hn
        obtain ⟨⟨-, htwo⟩, hlength, hall⟩ := mem_counts_dashes_iff.mp hn
        by_contra hmore
        obtain rfl : n = 2 := by omega
        cases t with
        | nil => simp at hlength
        | cons c t =>
          obtain rfl : c = '-' := hall c (by simp)
          exact hne t rfl
    exact (hrun.group Slot.dashes.name).optional
  · next hne =>
    rw [marked_nil, List.append_nil]
    apply Grouped.prefers_optional
    have hnone : counts (.single '-') 1 (some 2) t = [] := by
      rw [List.eq_nil_iff_forall_not_mem]
      intro n hn
      obtain ⟨⟨hone, -⟩, hlength, hall⟩ := mem_counts_dashes_iff.mp hn
      cases t with
      | nil => exact absurd hone (by simpa using hlength)
      | cons c t =>
        obtain ⟨n, rfl⟩ := Nat.exists_eq_add_of_le' hone
        obtain rfl : c = '-' := hall c List.mem_cons_self
        exact hne t rfl
    rw [dashesPattern, Grouped.ways, Grouped.ways, hnone]
    rfl

theorem mem_compl_separators :
  (CharSet.compl separators).mem = (!isSeparator ·)
  := by
  funext c
  rw [CharSet.mem, mem_separators]

theorem prefers_flag (before t : Text) (captures : Captures) :
  flagPattern.Prefers ⟨before, t, captures⟩
    ⟨before ++ t.takeWhile (!isSeparator ·), t.dropWhile (!isSeparator ·),
      (Slot.flag.name, spanAfter before (t.takeWhile (!isSeparator ·))) :: captures⟩
  := by
  have hrun := Grouped.prefers_run_takeWhile ("[^= ]".toList ++ ['*']) (.compl separators)
    ⟨before, t, captures⟩
  rw [mem_compl_separators] at hrun
  rw [spanAfter, ← byteLength_append]
  exact hrun.group Slot.flag.name

/-- The captures with separator and value marked, unless there is no separator. -/
def markedValue (before separator value : Text) (captures : Captures) : Captures :=
  if separator = [] then captures
  else (Slot.value.name, spanAfter (before ++ separator) value)
    :: (Slot.separator.name, spanAfter before separator) :: captures

theorem prefers_value (before : Text) {t : Text} (h : ∀ c ∈ t.head?, isSeparator c = true)
    (captures : Captures) :
  (Grouped.optional (.hold valuePattern)).Prefers ⟨before, t, captures⟩
    ⟨before ++ t, [], markedValue before (t.take 1) (t.drop 1) captures⟩
  := by
  cases t with
  | nil =>
    rw [List.append_nil]
    exact Grouped.prefers_optional rfl
  | cons c t =>
    have hset : Grouped.Prefers (.set "[= ]".toList separators) ⟨before, c :: t, captures⟩
        (Position.advance ⟨before, c :: t, captures⟩ 1) :=
      Grouped.prefers_set rfl (by rw [mem_separators]; exact h c rfl)
    have hseparator := hset.group Slot.separator.name
    let behind : Position :=
      ⟨before ++ [c], t, (Slot.separator.name, spanAfter before [c]) :: captures⟩
    have hbehind : (Position.advance ⟨before, c :: t, captures⟩ 1).mark Slot.separator.name
        ⟨before, c :: t, captures⟩ = behind := by
      change Position.mk _ _ ((_, ⟨_, byteLength (before ++ [c])⟩) :: captures) = behind
      rw [byteLength_append]
      rfl
    have hvalue := (Grouped.prefers_run_takeWhile (['.'] ++ ['*']) .any behind).group
      Slot.value.name
    have hall : t.takeWhile CharSet.any.mem = t := List.takeWhile_eq_self_iff.mpr fun _ _ => rfl
    have hnone : t.dropWhile CharSet.any.mem = [] := List.dropWhile_eq_nil_iff.mpr fun _ _ => rfl
    rw [hall, hnone] at hvalue
    rw [hbehind] at hseparator
    have hwhole := (hseparator.cat hvalue).hold.optional
    have hmarked : (Position.mk (behind.passed ++ t) [] behind.captures).mark Slot.value.name behind
        = ⟨before ++ (c :: t), [], markedValue before [c] t captures⟩ := by
      rw [markedValue, if_neg (List.cons_ne_nil c []), spanAfter, ← byteLength_append]
      change Position.mk (before ++ [c] ++ t) [] _ = Position.mk (before ++ ([c] ++ t)) [] _
      rw [← List.append_assoc]
    rwa [hmarked] at hwhole

/-- What the groups mark on a line that consists of the slots. -/
def captures (d : Directive) : Captures :=
  let behindFlag := (Slot.flag.name, d.flagSpan)
    :: marked .dashes d.dashesSpan (marked .space d.spaceSpan [(Slot.tag.name, d.tagSpan)])
  markedValue (d.tag ++ d.space ++ d.dashes ++ d.flag) d.separator d.value behindFlag

/-- The first way through a line that starts with the tag marks the slots of the line. -/
theorem prefers_pattern (tag rest : Text) :
  (pattern tag).Prefers ⟨[], tag ++ rest, []⟩
    ⟨(ofRest tag rest).text, [], (ofRest tag rest).captures⟩
  := by
  let d := ofRest tag rest
  let afterDashes := (takeDashes (takeSpace rest).2).2
  let afterFlag := afterDashes.dropWhile (!isSeparator ·)
  have hhead : ∀ c ∈ afterFlag.head?, isSeparator c = true := by
    obtain ⟨-, -, hhead⟩ := takeWhile_eq_and_dropWhile_eq_iff
      (p := (!isSeparator ·)) (t := afterDashes).mp ⟨rfl, rfl⟩
    intro c hc
    simpa using hhead c hc
  have htag : (Grouped.group Slot.tag.name (.literal tag)).Prefers ⟨[], tag ++ rest, []⟩
      ⟨tag, rest, [(Slot.tag.name, d.tagSpan)]⟩ := by
    have hspan : d.tagSpan = ⟨byteLength [], byteLength ([] ++ tag)⟩ := by
      rw [byteLength_append]
      rfl
    rw [hspan]
    exact (prefers_literal (p := ⟨[], tag ++ rest, []⟩) rfl).group Slot.tag.name
  have hspace := prefers_space tag rest [(Slot.tag.name, d.tagSpan)]
  have hdashes := prefers_dashes (tag ++ d.space) (takeSpace rest).2
    (marked .space d.spaceSpan [(Slot.tag.name, d.tagSpan)])
  have hflag := prefers_flag (tag ++ d.space ++ d.dashes) afterDashes
    (marked .dashes d.dashesSpan (marked .space d.spaceSpan [(Slot.tag.name, d.tagSpan)]))
  have hvalue := prefers_value (tag ++ d.space ++ d.dashes ++ d.flag) hhead
    ((Slot.flag.name, d.flagSpan) :: marked .dashes d.dashesSpan
      (marked .space d.spaceSpan [(Slot.tag.name, d.tagSpan)]))
  have htext : tag ++ d.space ++ d.dashes ++ d.flag ++ afterFlag = d.text := by
    rw [← List.take_append_drop 1 afterFlag, ← List.append_assoc]
    rfl
  rw [htext] at hvalue
  have hstop : Grouped.Prefers (.look ['$'] .stop) ⟨d.text, [], d.captures⟩
      ⟨d.text, [], d.captures⟩ := Grouped.prefers_look rfl
  have hrest := hspace.cat (hdashes.cat (hflag.cat (hvalue.cat hstop)))
  exact (Grouped.prefers_nothing _ _).cat ((Grouped.prefers_look rfl).cat (htag.cat hrest))

/-- A way through the pattern starts at the start of a line, and the tag lies there. -/
theorem prefix_of_mem_ways_pattern {tag : Text} {p q : Position} (h : q ∈ (pattern tag).ways p) :
  p.passed = [] ∧ tag <+: p.rest
  := by
  rw [pattern, Grouped.ways, Grouped.ways, List.flatMap_singleton] at h
  obtain ⟨m, hm, hq⟩ := List.mem_flatMap.mp h
  rw [Grouped.ways] at hm
  split at hm
  · next hstart =>
    obtain rfl := List.mem_singleton.mp hm
    obtain ⟨n, hn, -⟩ := List.mem_flatMap.mp hq
    obtain ⟨n', hn', -⟩ := List.mem_map.mp hn
    refine ⟨?_, prefix_of_mem_ways_literal hn'⟩
    exact List.getLast?_eq_none_iff.mp (Option.isNone_iff_eq_none.mp hstart)
  · contradiction

/-- A line is found to match exactly if it starts with the tag, and its groups then mark its
slots. -/
theorem captures?_pattern (tag line : Text) :
  (pattern tag).captures? line = (read tag line).map captures
  := by
  by_cases htag : tag <+: line
  · obtain ⟨rest, rfl⟩ := htag
    have hread : read tag (tag ++ rest) = some (ofRest tag rest) := by
      rw [read, dropPrefix?_eq_some_iff.mpr rfl]
      rfl
    rw [hread]
    exact Grouped.captures?_of_prefers (prefers_pattern tag rest)
  · rw [read_eq_none_iff.mpr htag, Grouped.captures?, Option.map_none, Option.map_eq_none_iff,
      List.head?_eq_none_iff, List.flatMap_eq_nil_iff]
    intro p hp
    rw [List.eq_nil_iff_forall_not_mem]
    intro q hq
    obtain ⟨hpassed, hprefix⟩ := prefix_of_mem_ways_pattern hq
    obtain ⟨-, htext, -⟩ := Position.mem_starts_iff.mp hp
    rw [Position.text, hpassed, List.nil_append] at htext
    rw [htext, List.nil_append] at hprefix
    exact htag hprefix

/-! ### What is read from the groups -/

/-- What the slots of a line tell. -/
def parsed (d : Directive) : Parsed where
  tag := d.tagSpan
  space := d.spaceSpan
  dashes := d.dashesSpan
  flag := d.flagSpan
  separator := d.separatorSpan
  value := d.valueSpan
  flagText := d.flag
  valueText := d.value
  dashStyle := d.dashStyle
  lineLength := d.lineLength

theorem lookup_cons_of_ne {s s' : Slot} (h : s' ≠ s) (span : Span) (captures : Captures) :
  ((s.name, span) :: captures).lookup s'.name = captures.lookup s'.name
  := by
  have hname : (s'.name == s.name) = false := beq_eq_false_iff_ne.mpr fun hn => h (name_inj.mp hn)
  rw [List.lookup_cons, hname]

theorem lookup_marked_of_ne {s s' : Slot} (h : s' ≠ s) (span : Span) (captures : Captures) :
  (marked s span captures).lookup s'.name = captures.lookup s'.name
  := by
  unfold marked
  split
  · rfl
  · exact lookup_cons_of_ne h span captures

theorem lookup_markedValue_of_ne {s : Slot} (hseparator : s ≠ .separator) (hvalue : s ≠ .value)
    (before separator value : Text) (captures : Captures) :
  (markedValue before separator value captures).lookup s.name = captures.lookup s.name
  := by
  unfold markedValue
  split
  · rfl
  · rw [lookup_cons_of_ne hvalue, lookup_cons_of_ne hseparator]

theorem slot_of_lookup {s : Slot} {span : Span} {captures : Captures}
    (h : captures.lookup s.name = some span) (cursor : Nat) :
  slot captures s cursor = span
  := by
  rw [slot, h, Option.getD_some]

theorem stop_spanAfter (before t : Text) :
  (spanAfter before t).stop = byteLength (before ++ t)
  := (byteLength_append before t).symm

/-- A slot is read at the end of what lies before it, whether it is empty or not. -/
theorem slot_marked {s : Slot} {captures : Captures} (h : captures.lookup s.name = none)
    (before t : Text) :
  slot (marked s (spanAfter before t) captures) s (byteLength before) = spanAfter before t
  := by
  cases t with
  | nil =>
    rw [marked_nil, slot, h]
    rfl
  | cons c t =>
    rw [marked_of_ne_nil (List.cons_ne_nil c t)]
    exact slot_of_lookup List.lookup_cons_self _

/-- Separator and value are read in the same way; without a separator there is no value. -/
theorem slot_markedValue {captures : Captures} {separator value : Text}
    (hseparator : captures.lookup Slot.separator.name = none)
    (hvalue : captures.lookup Slot.value.name = none) (hnil : separator = [] → value = [])
    (before : Text) :
  slot (markedValue before separator value captures) .separator (byteLength before)
      = spanAfter before separator
    ∧ slot (markedValue before separator value captures) .value (byteLength (before ++ separator))
      = spanAfter (before ++ separator) value
  := by
  unfold markedValue
  split
  · next h =>
    rw [hnil h, h, slot, slot, hseparator, hvalue]
    exact ⟨rfl, rfl⟩
  · constructor
    · apply slot_of_lookup
      rw [lookup_cons_of_ne (by decide)]
      exact List.lookup_cons_self
    · exact slot_of_lookup List.lookup_cons_self _

/-- What is read from the groups that mark the slots of a line is what the slots tell. -/
theorem ofCaptures?_captures {d : Directive} (h : d.Canonical) :
  ofCaptures? d.text d.captures = some d.parsed
  := by
  have htag : slot d.captures .tag 0 = d.tagSpan := by
    apply slot_of_lookup
    rw [captures, lookup_markedValue_of_ne (by decide) (by decide), lookup_cons_of_ne (by decide),
      lookup_marked_of_ne (by decide), lookup_marked_of_ne (by decide)]
    exact List.lookup_cons_self
  have hspace : slot d.captures .space d.tagSpan.stop = d.spaceSpan := by
    rw [slot, captures, lookup_markedValue_of_ne (by decide) (by decide),
      lookup_cons_of_ne (by decide), lookup_marked_of_ne (by decide), tagSpan, stop_spanAfter]
    exact slot_marked rfl d.tag d.space
  have hunmarked : (marked .space d.spaceSpan [(Slot.tag.name, d.tagSpan)]).lookup
      Slot.dashes.name = none := by
    rw [lookup_marked_of_ne (by decide)]
    rfl
  have hdashes : slot d.captures .dashes d.spaceSpan.stop = d.dashesSpan := by
    rw [slot, captures, lookup_markedValue_of_ne (by decide) (by decide),
      lookup_cons_of_ne (by decide), spaceSpan, stop_spanAfter]
    exact slot_marked hunmarked (d.tag ++ d.space) d.dashes
  have hflag : slot d.captures .flag d.dashesSpan.stop = d.flagSpan := by
    apply slot_of_lookup
    rw [captures, lookup_markedValue_of_ne (by decide) (by decide)]
    exact List.lookup_cons_self
  have hbehind (s : Slot) (hflag : s ≠ .flag) (hdashes : s ≠ .dashes) (hspace : s ≠ .space)
      (htag : s ≠ .tag) : ((Slot.flag.name, d.flagSpan) :: marked .dashes d.dashesSpan
        (marked .space d.spaceSpan [(Slot.tag.name, d.tagSpan)])).lookup s.name = none := by
    rw [lookup_cons_of_ne hflag, lookup_marked_of_ne hdashes, lookup_marked_of_ne hspace,
      lookup_cons_of_ne htag]
    rfl
  obtain ⟨hseparator, hvalue⟩ := slot_markedValue
    (hbehind .separator (by decide) (by decide) (by decide) (by decide))
    (hbehind .value (by decide) (by decide) (by decide) (by decide)) h.value_eq
    (d.tag ++ d.space ++ d.dashes ++ d.flag)
  rw [← stop_spanAfter] at hseparator hvalue
  have hflagText : d.flagSpan.slice? d.text = some d.flag :=
    Span.slice?_eq_some_iff.mpr (d.covers_slots (d.flag, d.flagSpan) (by simp [slots]))
  have hvalueText : d.valueSpan.slice? d.text = some d.value :=
    Span.slice?_eq_some_iff.mpr (d.covers_slots (d.value, d.valueSpan) (by simp [slots]))
  have hstyle : DashStyle.ofCount d.dashesSpan.length = d.dashStyle := by
    have hlength : d.dashesSpan.length = byteLength d.dashes := Nat.add_sub_cancel_left _ _
    rw [hlength, dashStyle]
    rcases h.dashes_eq with hd | hd | hd <;> rw [hd] <;> rfl
  change slot d.captures .separator d.flagSpan.stop = d.separatorSpan at hseparator
  change slot d.captures .value d.separatorSpan.stop = d.valueSpan at hvalue
  simp only [ofCaptures?, htag, hspace, hdashes, hflag, hseparator, hvalue, hflagText, hvalueText,
    hstyle]
  rfl

/-- What is read from a line through its pattern is what the slots of the line tell. -/
theorem parse?_eq (tag line : Text) :
  parse? tag line = (read tag line).map fun d => some d.parsed
  := by
  rw [parse?, captures?_pattern, Option.map_map]
  cases hread : read tag line with
  | none => rfl
  | some d =>
    obtain ⟨-, hcanonical, rfl⟩ := read_eq_some_iff.mp hread
    rw [Option.map_some, Option.map_some, Function.comp_apply, ofCaptures?_captures hcanonical]

/-! ### Reading and writing -/

/-- The spans of the slots from left to right. -/
def Parsed.spans (p : Parsed) : List Span :=
  [p.tag, p.space, p.dashes, p.flag, p.separator, p.value]

/-- What is read from a line tells the slots that make it up. -/
structure Parsed.Describes (p : Parsed) (d : Directive) : Prop where
  /-- The spans tile the line. -/
  tiling : Tiling 0 p.spans p.lineLength
  /-- Each span holds its slot and ends between characters. -/
  covers : p.spans.Forall₂ (fun s slot => s.Covers d.text slot
    ∧ IsBoundary d.text s.start ∧ IsBoundary d.text s.stop)
    [d.tag, d.space, d.dashes, d.flag, d.separator, d.value]
  /-- The length is that of the line. -/
  lineLength_eq : p.lineLength = byteLength d.text
  /-- The flag is given as written. -/
  flagText_eq : p.flagText = d.flag
  /-- The value is given as written. -/
  valueText_eq : p.valueText = d.value
  /-- The style counts the dashes. -/
  count_dashStyle : p.dashStyle.count = d.dashes.length

theorem Canonical.describes_parsed {d : Directive} (h : d.Canonical) :
  d.parsed.Describes d
  where
  tiling := d.tiling_slots
  covers := by
    have hslots := d.covers_slots
    simp only [slots, List.forall_mem_cons] at hslots
    obtain ⟨htag, hspace, hdashes, hflag, hseparator, hvalue, -⟩ := hslots
    exact .cons ⟨htag, htag.isBoundary⟩ (.cons ⟨hspace, hspace.isBoundary⟩
      (.cons ⟨hdashes, hdashes.isBoundary⟩ (.cons ⟨hflag, hflag.isBoundary⟩
      (.cons ⟨hseparator, hseparator.isBoundary⟩ (.cons ⟨hvalue, hvalue.isBoundary⟩ .nil)))))
  lineLength_eq := rfl
  flagText_eq := rfl
  valueText_eq := rfl
  count_dashStyle := h.count_dashStyle

/-- Reading a line through the pattern undoes writing canonical slots one behind the other.  The
written form of the pattern, with the tag escaped in it, is read as the expression that the line
is searched for, apart from the size of its automata.  A line that does not start with the tag is
not read.  What is read from any other line tells canonical slots that make it up.  Conversely,
canonical slots are told by what is read from the line that they make up. -/
theorem parse_inverse_text (tag line : Text) :
  (∃ part, part? (patternText tag) = some part ∧ part.depth ≤ depthLimit
      ∧ part.regex = (pattern tag).regex)
    ∧ (parse? tag line = none ↔ ¬ tag <+: line)
    ∧ (∀ result, parse? tag line = some result →
      ∃ p d, result = some p ∧ d.tag = tag ∧ d.Canonical ∧ d.text = line ∧ p.Describes d)
    ∧ ∀ d : Directive, d.Canonical →
      ∃ p, parse? d.tag d.text = some (some p) ∧ p.Describes d
  := by
  refine ⟨part?_patternText tag, ?_, ?_, ?_⟩
  · rw [parse?_eq, Option.map_eq_none_iff]
    exact read_eq_none_iff
  · intro result hresult
    rw [parse?_eq] at hresult
    obtain ⟨d, hd, rfl⟩ := Option.map_eq_some_iff.mp hresult
    obtain ⟨htag, hcanonical, htext⟩ := read_eq_some_iff.mp hd
    exact ⟨d.parsed, d, rfl, htag, hcanonical, htext, hcanonical.describes_parsed⟩
  · intro d hd
    use d.parsed
    rw [parse?_eq, read_eq_some_iff.mpr ⟨rfl, hd, rfl⟩]
    exact ⟨rfl, hd.describes_parsed⟩

/-- Slots with characters of two bytes behind a tag with a full stop. -/
theorem parse_inverse_text_wide :
  let d : Directive := ⟨['#', '.'], [' '], ['-'], ['é'], ['='], ['ü']⟩
  d.Canonical
    ∧ parse? d.tag d.text = some (some ⟨⟨0, 2⟩, ⟨2, 3⟩, ⟨3, 4⟩, ⟨4, 6⟩, ⟨6, 7⟩, ⟨7, 9⟩, ['é'],
      ['ü'], .single, 9⟩)
    ∧ Tiling 0 [⟨0, 2⟩, ⟨2, 3⟩, ⟨3, 4⟩, ⟨4, 6⟩, ⟨6, 7⟩, ⟨7, 9⟩] 9
  := by
  intro d
  have hcanonical : d.Canonical := by
    constructor
    · apply Or.inr rfl
    · intro h
      contradiction
    · apply Or.inr (Or.inl rfl)
    · intro _ h
      have h : 'é' = '-' := Option.some.inj h
      contradiction
    · intro c hc
      obtain rfl := List.mem_singleton.mp hc
      decide
    · apply Or.inr (Or.inl rfl)
    · intro h
      contradiction
  have hparse : parse? d.tag d.text = some (some ⟨⟨0, 2⟩, ⟨2, 3⟩, ⟨3, 4⟩, ⟨4, 6⟩, ⟨6, 7⟩,
      ⟨7, 9⟩, ['é'], ['ü'], .single, 9⟩) := by
    decide +kernel
  obtain ⟨-, -, -, hwritten⟩ := parse_inverse_text d.tag d.text
  obtain ⟨p, hp, hdescribes⟩ := hwritten d hcanonical
  obtain rfl := Option.some.inj (Option.some.inj (hparse.symm.trans hp))
  exact ⟨hcanonical, hparse, hdescribes.tiling⟩

end Directive

end DirectiveLint
