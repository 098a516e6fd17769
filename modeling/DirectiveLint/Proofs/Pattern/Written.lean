import DirectiveLint.Directive.Pattern
import DirectiveLint.Proofs.Pattern.Anchored
import DirectiveLint.Proofs.Text.Pieces
import Mathlib.Tactic.FinCases

/-!
# Written forms of grouped expressions

`Grouped.ReadsAs r d parts names` says that the written form of `r` is read as some parts of depth
`d` at most, whose sequence is `r` without its groups, and that it uses some names; this holds of
an expression if it holds of its parts.  An escaped text is read as the text itself
(`Grouped.readsAs_literal`), whatever characters it holds.
-/

namespace DirectiveLint.Pattern

variable {m : Mode} {r r' : Grouped} {d : Nat} {parts : List Part} {p : Part}
  {names names' : List Text} {t u : Text} {s s₁ s₂ : State}

theorem State.Reads.trans {t₁ t₂ : Text} (h : Reads s t s₁ t₁) (h' : Reads s₁ t₁ s₂ t₂) :
  Reads s t s₂ t₂
  := by
  induction h with
  | refl _ _ => exact h'
  | step hstep _ ih => exact .step hstep (ih h')

/-- The state behind some further parts, in which some further names are used. -/
def State.after (s : State) (parts : List Part) (names : List Text) : State :=
  { s with
    group := { s.group with items := (parts.map Item.part).reverse ++ s.group.items },
    names := names.reverse ++ s.names }

theorem State.after_after (s : State) (parts parts' : List Part) (names names' : List Text) :
  (s.after parts names).after parts' names' = s.after (parts ++ parts') (names ++ names')
  := by
  simp [after]

/-- What stands behind an expression does not change how it is repeated. -/
theorem State.dropLazy_of_head? (h : u.head? ≠ some '?') :
  dropLazy u = u
  := by
  unfold dropLazy
  split
  · contradiction
  · rfl

theorem depthAround_le (h : ∀ p ∈ parts, p.depth ≤ d) :
  Part.depthAround parts ≤ d + 1
  := by
  have hmax : ∀ n ≤ d, (parts.map (·.depth)).foldl max n ≤ d := by
    induction parts with
    | nil => simp
    | cons p parts ih =>
      intro n hn
      rw [List.forall_mem_cons] at h
      rw [List.map_cons, List.foldl_cons]
      exact ih h.2 _ (max_le hn h.1)
  have := hmax 0 (Nat.zero_le d)
  rw [Part.depthAround]
  omega

theorem depth_sequence_le (h : ∀ p ∈ parts, p.depth ≤ d) :
  (Part.sequence parts).depth ≤ d + 1
  := by
  match parts with
  | [] => exact Nat.zero_le _
  | [p] => exact Nat.le_succ_of_le (h p (List.mem_singleton_self p))
  | p :: p' :: parts => exact depthAround_le h

theorem regex_sequence (parts : List Part) :
  (Part.sequence parts).regex = .catOf (parts.map (·.regex))
  := by
  match parts with
  | [] => rfl
  | [p] => rfl
  | p :: p' :: parts => rfl

namespace Grouped

/-- The mode behind the flag that lets the dot match line feeds. -/
def dotAllMode : Mode := { dotAll := true }

/-- The written form of an expression ends in a repetition, which a question mark behind it would
change. -/
def endsRepeated : Grouped → Bool
  | nothing _ => false
  | look _ _ => false
  | set _ _ => false
  | run _ _ _ _ => true
  | cat _ s => s.endsRepeated
  | hold _ => false
  | group _ _ => false
  | optional _ => true

/-- The written form of an expression is read as some parts. -/
structure ReadsAs (r : Grouped) (d : Nat) (parts : List Part) (names : List Text) : Prop where
  /-- The parts are added to the open group. -/
  reads : ∀ (s : State) (u : Text), s.mode = dotAllMode → (∀ n ∈ names, n ∉ s.names) →
    (r.endsRepeated = true → u.head? ≠ some '?') →
    State.Reads s (r.written ++ u) (s.after parts names) u
  /-- In sequence, the parts make up the expression. -/
  regex : (Part.sequence parts).regex = r.regex
  /-- The parts are not too deep. -/
  depth : ∀ p ∈ parts, p.depth ≤ d

/-- An expression is read as one part if one step of the reader takes its written form. -/
theorem readsAs_of_step (hregex : p.regex = r.regex) (hdepth : p.depth ≤ d)
    (h : ∀ group outer names u, State.step ⟨dotAllMode, group, outer, names⟩ (r.written ++ u)
      = some (⟨dotAllMode, group.push p, outer, names⟩, u)) :
  ReadsAs r d [p] []
  where
  reads := by
    rintro ⟨mode, group, outer, names⟩ u hmode - -
    obtain rfl : mode = dotAllMode := hmode
    exact .step (h group outer names u) (.refl _ _)
  regex := hregex
  depth := by simpa using hdepth

theorem ReadsAs.mono {d' : Nat} (h : ReadsAs r d parts names) (hle : d ≤ d') :
  ReadsAs r d' parts names
  where
  reads := h.reads
  regex := h.regex
  depth p hp := Nat.le_trans (h.depth p hp) hle

theorem readsAs_nothing :
  ReadsAs (.nothing []) d [] []
  where
  reads s u _ _ _ := .refl s u
  regex := rfl
  depth := by simp

theorem ReadsAs.cat (h : ReadsAs r d [p] names) (h' : ReadsAs r' d parts names')
    (hne : parts ≠ []) (hhead : ∃ c ∈ r'.written.head?, c ≠ '?')
    (hnames : ∀ n ∈ names', n ∉ names) :
  ReadsAs (.cat r r') d (p :: parts) (names ++ names')
  where
  reads s u hmode hnew hu := by
    obtain ⟨c, hc, hquestion⟩ := hhead
    obtain ⟨w, hw⟩ := List.head?_eq_some_iff.mp hc
    have hnew₁ : ∀ n ∈ names, n ∉ s.names := fun n hn => hnew n (List.mem_append_left _ hn)
    have hnew₂ : ∀ n ∈ names', n ∉ (s.after [p] names).names := by
      intro n hn
      rw [State.after, List.mem_append, List.mem_reverse, not_or]
      exact ⟨hnames n hn, hnew n (List.mem_append_right _ hn)⟩
    have hreads := h'.reads (s.after [p] names) u hmode hnew₂ hu
    rw [State.after_after, List.singleton_append] at hreads
    rw [written, List.append_assoc]
    apply (h.reads s _ hmode hnew₁ _).trans hreads
    intro _
    simpa [hw] using hquestion
  regex := by
    have hp : p.regex = r.regex := h.regex
    have hparts := h'.regex
    rw [regex_sequence] at hparts ⊢
    cases parts with
    | nil => contradiction
    | cons p' parts =>
      rw [Grouped.regex, ← hparts, ← hp]
      rfl
  depth := by
    rw [List.forall_mem_cons]
    exact ⟨h.depth p (List.mem_singleton_self p), h'.depth⟩

/-- The part that a group around some parts makes. -/
def partOfGroup (parts : List Part) (marks : Bool) : Part :=
  (Part.choice [.sequence parts]).inGroup marks

theorem depth_partOfGroup_le (h : ∀ p ∈ parts, p.depth ≤ d) (marks : Bool) :
  (partOfGroup parts marks).depth ≤ d + 2
  := by
  have := depth_sequence_le h
  change 1 + (Part.sequence parts).depth ≤ d + 2
  omega

/-- The parenthesis behind a group closes it. -/
theorem step_close {group : Group} {outer : List Group} {marks : Bool} {mode : Mode} :
  State.step ((⟨mode, ⟨dotAllMode, marks, [], []⟩, group :: outer, names⟩ : State).after parts
      names') (')' :: u)
    = some (⟨dotAllMode, group.push (partOfGroup parts marks), outer, names'.reverse ++ names⟩, u)
  := by
  have hitems : (((parts.map Item.part).reverse ++ []).reverse.map Item.toPart) = parts := by
    simp [Function.comp_def, Item.toPart]
  simp only [State.step, State.closeGroup, State.after, Group.whole, Group.branch, hitems]
  rfl

theorem readName_of_forall {name : Text} (hne : name ≠ [])
    (halphabetic : ∀ c ∈ name, Unicode.isAlphabetic c = true ∧ c ≠ '>') :
  readName (name ++ '>' :: u) = some (name, u)
  := by
  have hcut : cutAt '>' (name ++ '>' :: u) = some (name, u) := by
    apply cutAt_eq_some_iff.mpr
    exact ⟨rfl, fun h => (halphabetic _ h).2 rfl⟩
  obtain ⟨first, rest, rfl⟩ := List.exists_cons_of_ne_nil hne
  have hfirst : isNameChar true first = true := by
    simp [isNameChar, halphabetic first List.mem_cons_self]
  have hrest : rest.all (isNameChar false) = true := by
    rw [List.all_eq_true]
    intro c hc
    simp [isNameChar, Unicode.isAlphanumeric, halphabetic c (List.mem_cons_of_mem _ hc)]
  rw [readName, hcut]
  simp [hfirst, hrest]

theorem ReadsAs.group {name : Text} (h : ReadsAs r d parts names) (hne : name ≠ [])
    (halphabetic : ∀ c ∈ name, Unicode.isAlphabetic c = true ∧ c ≠ '>') (hnew : name ∉ names) :
  ReadsAs (.group name r) (d + 2) [partOfGroup parts true] (name :: names)
  where
  reads := by
    rintro ⟨mode, group, outer, used⟩ u hmode hused hu
    obtain rfl : mode = dotAllMode := hmode
    have hwritten : (Grouped.group name r).written ++ u
        = '(' :: '?' :: 'P' :: '<' :: (name ++ '>' :: (r.written ++ ')' :: u)) := by
      simp [written]
    let inner : State := ⟨dotAllMode, ⟨dotAllMode, true, [], []⟩, group :: outer, name :: used⟩
    have hopen : State.step ⟨dotAllMode, group, outer, used⟩
        ('(' :: '?' :: 'P' :: '<' :: (name ++ '>' :: (r.written ++ ')' :: u)))
        = some (inner, r.written ++ ')' :: u) := by
      change State.openNamed _ _ = _
      have hnot : used.contains name = false := by
        simpa using hused name List.mem_cons_self
      rw [State.openNamed, readName_of_forall hne halphabetic]
      simp only [hnot]
      rfl
    have hfresh : ∀ n ∈ names, n ∉ inner.names := by
      intro n hn
      rw [List.mem_cons, not_or]
      refine ⟨?_, hused n (List.mem_cons_of_mem _ hn)⟩
      rintro rfl
      exact hnew hn
    rw [hwritten]
    apply State.Reads.step hopen
    apply (h.reads inner (')' :: u) rfl hfresh (by simp)).trans
    refine .step step_close ?_
    have hnames : names.reverse ++ name :: used = (name :: names).reverse ++ used := by simp
    rw [hnames]
    exact .refl _ _
  regex := h.regex
  depth := by
    rw [List.forall_mem_singleton]
    exact depth_partOfGroup_le h.depth true

theorem ReadsAs.hold (h : ReadsAs r d parts names) :
  ReadsAs (.hold r) (d + 2) [partOfGroup parts false] names
  where
  reads := by
    rintro ⟨mode, group, outer, used⟩ u hmode hused hu
    obtain rfl : mode = dotAllMode := hmode
    have hwritten : (Grouped.hold r).written ++ u
        = '(' :: '?' :: ':' :: (r.written ++ ')' :: u) := by
      simp [written]
    let inner : State := ⟨dotAllMode, ⟨dotAllMode, false, [], []⟩, group :: outer, used⟩
    have hopen : State.step ⟨dotAllMode, group, outer, used⟩
        ('(' :: '?' :: ':' :: (r.written ++ ')' :: u)) = some (inner, r.written ++ ')' :: u) := rfl
    rw [hwritten]
    apply State.Reads.step hopen
    apply (h.reads inner (')' :: u) rfl hused (by simp)).trans
    exact .step step_close (.refl _ _)
  regex := h.regex
  depth := by
    rw [List.forall_mem_singleton]
    exact depth_partOfGroup_le h.depth false

theorem repeatLast_after (s : State) (p : Part) (least : Nat) (most : Option Nat) :
  (s.after [p] names).repeatLast least most = some (s.after [p.repeated least most] names)
  := rfl

theorem ReadsAs.optional (h : ReadsAs r d [p] names) (hends : r.endsRepeated = false) :
  ReadsAs (.optional r) (d + 1) [p.repeated 0 (some 1)] names
  where
  reads s u hmode hnew hu := by
    have hreads := h.reads s ('?' :: u) hmode hnew (by simp [hends])
    have hstep : (s.after [p] names).step ('?' :: u)
        = some (s.after [p.repeated 0 (some 1)] names, u) := by
      change ((s.after [p] names).repeatLast 0 (some 1)).map (·, State.dropLazy u) = _
      rw [repeatLast_after, State.dropLazy_of_head? (hu rfl)]
      rfl
    rw [written, List.append_assoc]
    apply hreads.trans
    refine .step ?_ (.refl _ _)
    have hskip : (s.after [p] names).mode.skip ('?' :: u) = '?' :: u := by
      change s.mode.skip ('?' :: u) = _
      rw [hmode]
      rfl
    rwa [hskip]
  regex := by
    have hp : p.regex = r.regex := h.regex
    change p.regex.repeated 0 (some 1) = .rep r.regex 0 (some 1)
    rw [Regex.repeated, hp]
    split <;> rfl
  depth := by
    have := h.depth p (List.mem_singleton_self p)
    rw [List.forall_mem_singleton]
    change 1 + p.depth ≤ d + 1
    omega

/-- An expression for characters of a set is read as a repetition behind the set. -/
theorem readsAs_run {w v : Text} {set : CharSet} {least : Nat} {most : Option Nat}
    (h : ReadsAs (.set w set) d [p] [])
    (hstep : ∀ group outer names u, State.step ⟨dotAllMode, group, outer, names⟩ (v ++ u)
      = (State.repeatLast ⟨dotAllMode, group, outer, names⟩ least most).map
        (·, State.dropLazy u)) :
  ReadsAs (.run (w ++ v) set least most) (d + 1) [p.repeated least most] []
  where
  reads := by
    rintro ⟨mode, group, outer, names⟩ u hmode hnew hu
    obtain rfl : mode = dotAllMode := hmode
    rw [written, List.append_assoc]
    apply (h.reads _ (v ++ u) rfl hnew (by simp [endsRepeated])).trans
    refine .step ?_ (.refl _ _)
    apply (hstep _ _ _ u).trans
    rw [State.dropLazy_of_head? (hu rfl)]
    rfl
  regex := by
    have hp : p.regex = .set set := h.regex
    change p.regex.repeated least most = .rep (.set set) least most
    rw [hp]
    rfl
  depth := by
    have := h.depth p (List.mem_singleton_self p)
    rw [List.forall_mem_singleton]
    change 1 + p.depth ≤ d + 1
    omega

/-- A pattern that sets the flag for the dot first is read as what is written behind it. -/
theorem ReadsAs.part? (h : ReadsAs r d parts names) (hne : parts ≠ []) :
  ∃ part, part? ("(?s)".toList ++ r.written) = some part ∧ part.depth ≤ d + 1
    ∧ part.regex = .cat .empty r.regex
  := by
  let base : State := ⟨dotAllMode, ⟨{}, false, [], [.flags]⟩, [], []⟩
  have hflag : State.step .start ("(?s)".toList ++ r.written) = some (base, r.written) := rfl
  have hreads := h.reads base [] rfl (by simp [base]) (by simp)
  rw [List.append_nil] at hreads
  have hwhole : (base.after parts names).group.whole = .sequence (.empty :: parts) := by
    have hitems : (((parts.map Item.part).reverse ++ [Item.flags]).reverse.map Item.toPart)
        = .empty :: parts := by
      simp [Function.comp_def, Item.toPart]
    change Part.choice [.sequence (((parts.map Item.part).reverse ++ [Item.flags]).reverse.map
      Item.toPart)] = _
    rw [hitems]
    rfl
  refine ⟨_, part?_eq_some_iff.mpr ⟨_, [], .step hflag hreads, rfl, rfl, hwhole⟩, ?_, ?_⟩
  · apply depth_sequence_le
    rw [List.forall_mem_cons]
    exact ⟨Nat.zero_le d, h.depth⟩
  · have hregex := h.regex
    rw [regex_sequence] at hregex ⊢
    obtain ⟨p, parts, rfl⟩ := List.exists_cons_of_ne_nil hne
    rw [← hregex]
    rfl

/-! ### Escaped texts -/

/-- Behind a backslash, a character that means something else is read as itself. -/
theorem readEscape_of_mem {c : Char} (h : c ∈ metaChars) :
  readEscape m (c :: u) = some (.char c, u)
  := by
  fin_cases h <;> rfl

/-- Any other character is read as itself. -/
theorem step_of_not_mem {c : Char} (h : c ∉ metaChars) :
  s.step (c :: u) = some (s.pushAtom (.char c), u)
  := by
  simp only [State.step]
  split <;> first | exact absurd (by decide) h | rfl

/-- A character is read as itself where it is escaped if it means something else. -/
theorem readsAs_char (c : Char) :
  ReadsAs (.set (escapeChar c) (.single c)) 0 [.ofSet (.single c) 0] []
  := by
  apply readsAs_of_step
  · rfl
  · exact Nat.le_refl 0
  · intro group outer names u
    rw [written, escapeChar]
    split
    · next h =>
      change (readEscape dotAllMode (c :: u)).map _ = _
      rw [readEscape_of_mem h]
      rfl
    · next h =>
      rw [List.singleton_append, step_of_not_mem h]
      rfl

/-- A character of an escaped text is not taken for a mark of repetition. -/
theorem head?_escapeChar (c : Char) :
  ∃ a ∈ (escapeChar c).head?, a ≠ '?'
  := by
  unfold escapeChar
  split
  · exact ⟨'\\', rfl, by decide⟩
  · next h =>
    refine ⟨c, rfl, ?_⟩
    rintro rfl
    exact h (by decide)

theorem written_literal (t : Text) :
  (literal t).written = escape t
  := by
  fun_induction literal t with
  | case1 => rfl
  | case2 c => simp [written, escape]
  | case3 c t hne ih =>
    rw [written, ih]
    rfl

/-- An escaped text is read as the text itself. -/
theorem readsAs_literal (t : Text) :
  ReadsAs (literal t) 0 (t.map fun c => .ofSet (.single c) 0) []
  := by
  fun_induction literal t with
  | case1 => exact readsAs_nothing
  | case2 c => exact readsAs_char c
  | case3 c t hne ih =>
    obtain ⟨a, t, rfl⟩ := List.exists_cons_of_ne_nil hne
    apply (readsAs_char c).cat ih (by simp) _ (by simp)
    obtain ⟨b, hb, hquestion⟩ := head?_escapeChar a
    refine ⟨b, ?_, hquestion⟩
    rw [written_literal, escape, List.flatMap_cons, List.head?_append, hb]
    rfl

end Grouped

end DirectiveLint.Pattern
