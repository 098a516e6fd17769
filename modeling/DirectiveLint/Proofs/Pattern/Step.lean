import DirectiveLint.Proofs.Pattern.Brackets

/-!
# Steps in front of a closing parenthesis

A step of reading a pattern that ends before a closing parenthesis is the same step on the
text before the parenthesis alone (`State.step_of_append`), as its readers of counts, of flags
and names, of classes and of escapes are.
-/

namespace DirectiveLint.Pattern

variable {m : Mode} {t u r : Text}

/-! ### Counts -/

theorem map_pair_eq_some_iff {α β : Type} {o : Option α} {a : α} {t r : β} :
  o.map (·, t) = some (a, r) ↔ o = some a ∧ t = r
  := by cases o <;> simp

theorem suffix_of_takeCountDigits (fuel : Nat) (t : Text) :
  (takeCountDigits m fuel t).2 <:+ t
  := by
  induction fuel generalizing t with
  | zero => apply List.suffix_rfl
  | succ fuel ih =>
    unfold takeCountDigits
    split
    · next c rest =>
      split
      · apply (ih (m.skip rest)).trans
        apply (m.skip_suffix rest).trans (List.suffix_cons c rest)
      · apply List.suffix_rfl
    · apply List.suffix_rfl

theorem takeCountDigits_of_append {fuel fuel' : Nat} {digits : Text}
    (h : takeCountDigits m fuel (t ++ ')' :: u) = (digits, r ++ ')' :: u))
    (hfuel : t.length < fuel) (hfuel' : t.length < fuel') :
  takeCountDigits m fuel' t = (digits, r)
  := by
  induction fuel generalizing t digits fuel' with
  | zero => contradiction
  | succ fuel ih =>
    obtain ⟨fuel', rfl⟩ := Nat.exists_eq_add_one_of_ne_zero (Nat.ne_zero_of_lt hfuel')
    cases t with
    | nil =>
      obtain ⟨rfl, hr⟩ := Prod.mk.inj h
      rw [List.self_eq_append_left.mp hr]
      rfl
    | cons c t =>
      rw [List.cons_append, takeCountDigits] at h
      rw [takeCountDigits]
      rw [List.length_cons] at hfuel hfuel'
      have hlength := (m.skip_suffix t).length_le
      split at h
      · next hc =>
        obtain ⟨rfl, hr⟩ := Prod.mk.inj h
        have hsuffix := suffix_of_takeCountDigits (m := m) fuel (m.skip (t ++ ')' :: u))
        rw [hr] at hsuffix
        rw [m.skip_append hsuffix] at hr ⊢
        have hmore : takeCountDigits m fuel' (m.skip t) = (_, r) :=
          ih (Prod.ext rfl hr) (by omega) (by omega)
        rw [if_pos hc, hmore]
      · next hc =>
        obtain ⟨rfl, hr⟩ := Prod.mk.inj h
        rw [← List.cons_append] at hr
        rw [if_neg hc, List.append_cancel_right hr]

theorem suffix_of_skipAllBlanks (fuel : Nat) (t : Text) :
  skipAllBlanks m fuel t <:+ t
  := by
  induction fuel generalizing t with
  | zero => apply List.suffix_rfl
  | succ fuel ih =>
    unfold skipAllBlanks
    split
    · next c rest =>
      split
      · apply (ih (m.skip rest)).trans
        apply (m.skip_suffix rest).trans (List.suffix_cons c rest)
      · apply List.suffix_rfl
    · apply List.suffix_rfl

theorem skipAllBlanks_of_append {fuel fuel' : Nat}
    (h : skipAllBlanks m fuel (t ++ ')' :: u) = r ++ ')' :: u)
    (hfuel : t.length < fuel) (hfuel' : t.length < fuel') :
  skipAllBlanks m fuel' t = r
  := by
  induction fuel generalizing t fuel' with
  | zero => contradiction
  | succ fuel ih =>
    obtain ⟨fuel', rfl⟩ := Nat.exists_eq_add_one_of_ne_zero (Nat.ne_zero_of_lt hfuel')
    cases t with
    | nil =>
      rw [List.self_eq_append_left.mp h]
      rfl
    | cons c t =>
      rw [List.cons_append, skipAllBlanks] at h
      rw [skipAllBlanks]
      rw [List.length_cons] at hfuel hfuel'
      have hlength := (m.skip_suffix t).length_le
      split at h
      · next hc =>
        have hsuffix := suffix_of_skipAllBlanks (m := m) fuel (m.skip (t ++ ')' :: u))
        rw [h] at hsuffix
        rw [m.skip_append hsuffix] at h
        rw [if_pos hc, ih h (by omega) (by omega)]
      · next hc =>
        rw [← List.cons_append] at h
        rw [if_neg hc, List.append_cancel_right h]

/-- The number that digits denote, if there are any and it is not too large. -/
def countOf? (digits : Text) : Option Nat :=
  if digits.isEmpty || bitBound 32 ≤ ofDigits digits then none else some (ofDigits digits)

theorem readCount_eq (m : Mode) (t : Text) :
  readCount m t =
    let taken := takeCountDigits m (t.length + 1) (t.dropWhile Unicode.isBlank)
    (countOf? taken.1, skipAllBlanks m (taken.2.length + 1) taken.2)
  := by
  unfold readCount countOf?
  dsimp only
  split <;> rfl

theorem suffix_of_readCount (m : Mode) (t : Text) :
  (readCount m t).2 <:+ t
  := by
  rw [readCount_eq]
  apply (suffix_of_skipAllBlanks _ _).trans
  apply (suffix_of_takeCountDigits _ _).trans (List.dropWhile_suffix _)

theorem readCount_of_append {n : Option Nat}
    (h : readCount m (t ++ ')' :: u) = (n, r ++ ')' :: u)) :
  readCount m t = (n, r)
  := by
  rw [readCount_eq, dropWhile_isBlank_append] at h
  rw [readCount_eq]
  dsimp only at h ⊢
  obtain ⟨rfl, hr⟩ := Prod.mk.inj h
  have hblanks := suffix_of_skipAllBlanks (m := m) ((takeCountDigits m
    ((t ++ ')' :: u).length + 1) (t.dropWhile Unicode.isBlank ++ ')' :: u)).2.length + 1)
    (takeCountDigits m ((t ++ ')' :: u).length + 1)
      (t.dropWhile Unicode.isBlank ++ ')' :: u)).2
  rw [hr] at hblanks
  obtain ⟨w, hw⟩ := exists_append_of_suffix hblanks
  have hlength := (List.dropWhile_suffix (l := t) Unicode.isBlank).length_le
  have htake : takeCountDigits m (t.length + 1) (t.dropWhile Unicode.isBlank) = (_, w) :=
    takeCountDigits_of_append (Prod.ext rfl hw) (by rw [List.length_append]; omega) (by omega)
  rw [hw] at hr
  rw [htake]
  rw [skipAllBlanks_of_append hr (by rw [List.length_append]; omega) (Nat.lt_succ_self _)]

theorem suffix_tail_of_cons {c : Char} (h : c :: r <:+ t) :
  r <:+ t.tail
  := by
  obtain ⟨s, rfl⟩ := h
  cases s with
  | nil => apply List.suffix_rfl
  | cons d s => exact (List.suffix_cons c r).trans (List.suffix_append s _)

/-- The greatest number of a repetition, behind the least one and a comma. -/
def readMost (m : Mode) (least : Nat) (t : Text) : Option ((Nat × Option Nat) × Text) :=
  match t with
  | '\x7d' :: rest => some ((least, none), rest)
  | t =>
    match readCount m t with
    | (some most, '\x7d' :: rest) =>
      if least ≤ most then some ((least, some most), rest) else none
    | _ => none

theorem readBounds_eq (m : Mode) (t : Text) :
  readBounds m t = match m.skip t with
    | [] => none
    | t =>
      match readCount m t with
      | (some least, '\x7d' :: rest) => some ((least, some least), rest)
      | (some least, ',' :: rest) => readMost m least (m.skip rest)
      | _ => none
  := by
  unfold readBounds
  cases m.skip t with
  | nil => rfl
  | cons c t => rfl

theorem suffix_of_readMost {least : Nat} {bounds : Nat × Option Nat}
    (h : readMost m least t = some (bounds, r)) :
  r <:+ t
  := by
  unfold readMost at h
  split at h
  · obtain ⟨-, rfl⟩ := Prod.mk.inj (Option.some.inj h)
    apply List.suffix_cons
  · split at h
    · next most rest hcount =>
      split at h
      · obtain ⟨-, rfl⟩ := Prod.mk.inj (Option.some.inj h)
        have hsuffix := suffix_of_readCount m t
        rw [hcount] at hsuffix
        exact (List.suffix_cons _ _).trans hsuffix
      · contradiction
    · contradiction

theorem readMost_of_append {least : Nat} {bounds : Nat × Option Nat}
    (h : readMost m least (t ++ ')' :: u) = some (bounds, r ++ ')' :: u)) :
  readMost m least t = some (bounds, r)
  := by
  unfold readMost at h
  split at h
  · next rest heq =>
    obtain ⟨rfl, rfl⟩ := Prod.mk.inj (Option.some.inj h)
    rw [← List.cons_append] at heq
    rw [List.append_cancel_right heq]
    rfl
  · next hbrace =>
    split at h
    · next most rest hcount =>
      split at h
      · next hle =>
        obtain ⟨rfl, rfl⟩ := Prod.mk.inj (Option.some.inj h)
        have hcount' := readCount_of_append (r := '\x7d' :: r) hcount
        unfold readMost
        split
        · next rest => exact (hbrace _ rfl).elim
        · rw [hcount']
          exact if_pos hle
      · contradiction
    · contradiction

theorem suffix_of_readBounds {bounds : Nat × Option Nat} (h : readBounds m t = some (bounds, r)) :
  r <:+ (m.skip t).tail
  := by
  rw [readBounds_eq] at h
  split at h
  · contradiction
  · have hcount := suffix_of_readCount m (m.skip t)
    split at h
    · next least rest heq =>
      obtain ⟨-, rfl⟩ := Prod.mk.inj (Option.some.inj h)
      rw [heq] at hcount
      exact suffix_tail_of_cons hcount
    · next least rest heq =>
      rw [heq] at hcount
      apply (suffix_of_readMost h).trans
      exact (m.skip_suffix rest).trans (suffix_tail_of_cons hcount)
    · contradiction

theorem readBounds_of_append {bounds : Nat × Option Nat}
    (h : readBounds m (t ++ ')' :: u) = some (bounds, r ++ ')' :: u)) :
  readBounds m t = some (bounds, r)
  := by
  have hsuffix := suffix_of_readBounds h
  rw [m.skip_append (hsuffix.trans (List.tail_suffix _))] at hsuffix
  have hne : m.skip t ≠ [] := by
    intro hnil
    rw [hnil] at hsuffix
    exact not_suffix_self hsuffix
  rw [readBounds_eq, m.skip_append_of_ne_nil hne] at h
  rw [readBounds_eq]
  obtain ⟨c, w, hw⟩ := List.exists_cons_of_ne_nil hne
  rw [hw] at h ⊢
  dsimp only at h ⊢
  split at h
  · contradiction
  · split at h
    · next least rest hcount =>
      obtain ⟨rfl, rfl⟩ := Prod.mk.inj (Option.some.inj h)
      rw [readCount_of_append (r := '\x7d' :: r) hcount]
      rfl
    · next least rest hcount =>
      have hmost := suffix_of_readMost h
      obtain ⟨x, rfl⟩ := exists_append_of_suffix (hmost.trans (m.skip_suffix rest))
      rw [m.skip_append hmost] at h
      rw [readCount_of_append (r := ',' :: x) hcount]
      exact readMost_of_append h
    · contradiction

/-! ### Flags and names -/

theorem suffix_of_readFlags {seen : Text} {on dangling setting : Bool} {m' : Mode}
    (h : readFlags m seen on dangling t = some (m', setting, r)) :
  r <:+ t.tail
  := by
  fun_induction readFlags m seen on dangling t with
  | case1 => contradiction
  | case2 => contradiction
  | case3 =>
    obtain ⟨-, -, rfl⟩ := h
    apply List.suffix_rfl
  | case4 => contradiction
  | case5 =>
    obtain ⟨-, -, rfl⟩ := h
    apply List.suffix_rfl
  | case6 _ _ _ rest ih => exact (ih h).trans (List.tail_suffix rest)
  | case7 => contradiction
  | case8 => contradiction
  | case9 _ _ _ _ _ rest _ _ _ _ _ _ ih => exact (ih h).trans (List.tail_suffix rest)
  | case10 => contradiction

theorem readFlags_of_append {seen : Text} {on dangling setting : Bool} {m' : Mode}
    (h : readFlags m seen on dangling (t ++ ')' :: u) = some (m', setting, r ++ ')' :: u)) :
  readFlags m seen on dangling t = some (m', setting, r)
  := by
  fun_induction readFlags m seen on dangling t with
  | case1 => exact absurd (suffix_of_readFlags h) not_suffix_self
  | case6 _ _ _ rest ih =>
    rw [List.cons_append, readFlags] at h
    exact ih h
  | case9 _ _ _ _ c rest _ _ _ _ _ hswitch ih =>
    simp_all [readFlags]
  | _ => simp_all [readFlags]

theorem suffix_of_readName {name : Text} (h : readName t = some (name, r)) :
  r <:+ t
  := by
  unfold readName at h
  split at h
  · next first name' rest hcut =>
    split at h
    · obtain ⟨-, rfl⟩ := Prod.mk.inj (Option.some.inj h)
      rw [(cutAt_eq_some_iff.mp hcut).1]
      exact (List.suffix_cons _ _).trans (List.suffix_append _ _)
    · contradiction
  · contradiction

theorem readName_of_append {name : Text}
    (h : readName (t ++ ')' :: u) = some (name, r ++ ')' :: u)) :
  readName t = some (name, r)
  := by
  unfold readName at h ⊢
  split at h
  · next first name' rest hcut =>
    split at h
    · next hname =>
      obtain ⟨rfl, rfl⟩ := Prod.mk.inj (Option.some.inj h)
      rw [cutAt_of_append hcut]
      exact if_pos hname
    · contradiction
  · contradiction

/-! ### Parentheses -/

namespace State

variable {s s' : State}

theorem suffix_of_openNamed (h : s.openNamed t = some (s', r)) :
  r <:+ t
  := by
  unfold openNamed at h
  split at h
  · next name rest hname =>
    split at h
    · contradiction
    · obtain ⟨-, rfl⟩ := Prod.mk.inj (Option.some.inj h)
      exact suffix_of_readName hname
  · contradiction

theorem openNamed_of_append (h : s.openNamed (t ++ ')' :: u) = some (s', r ++ ')' :: u)) :
  s.openNamed t = some (s', r)
  := by
  unfold openNamed at h ⊢
  split at h
  · next name rest hname =>
    split at h
    · contradiction
    · next hnew =>
      obtain ⟨rfl, rfl⟩ := Prod.mk.inj (Option.some.inj h)
      rw [readName_of_append hname]
      exact if_neg hnew
  · contradiction

/-- What a question mark behind a parenthesis makes of a state if flags follow it. -/
def openFlags (s : State) (t : Text) : Option (State × Text) :=
  match readFlags s.mode [] true false t with
  | some (m, true, rest) =>
    some ({ s with mode := m, group := { s.group with items := .flags :: s.group.items } }, rest)
  | some (m, false, rest) => some (s.openGroup m false, rest)
  | none => none

theorem suffix_of_openFlags (h : s.openFlags t = some (s', r)) :
  r <:+ t
  := by
  unfold openFlags at h
  split at h
  · next m' rest hflags =>
    obtain ⟨-, rfl⟩ := Prod.mk.inj (Option.some.inj h)
    exact (suffix_of_readFlags hflags).trans (List.tail_suffix t)
  · next m' rest hflags =>
    obtain ⟨-, rfl⟩ := Prod.mk.inj (Option.some.inj h)
    exact (suffix_of_readFlags hflags).trans (List.tail_suffix t)
  · contradiction

theorem openFlags_of_append (h : s.openFlags (t ++ ')' :: u) = some (s', r ++ ')' :: u)) :
  s.openFlags t = some (s', r)
  := by
  unfold openFlags at h ⊢
  split at h
  · next m' rest hflags =>
    obtain ⟨rfl, rfl⟩ := Prod.mk.inj (Option.some.inj h)
    rw [readFlags_of_append hflags]
  · next m' rest hflags =>
    obtain ⟨rfl, rfl⟩ := Prod.mk.inj (Option.some.inj h)
    rw [readFlags_of_append hflags]
  · contradiction

theorem openParenthesis_angle {rest : Text} (h : s.mode.skip t = '?' :: '<' :: rest)
    (hequals : ∀ tail, rest ≠ '=' :: tail) (hbang : ∀ tail, rest ≠ '!' :: tail) :
  s.openParenthesis t = s.openNamed rest
  := by
  unfold openParenthesis
  rw [h]
  split
  case h_7 hangle heq => exact (hangle _ (List.cons.inj heq).2.symm).elim
  all_goals simp_all

theorem openParenthesis_flags {rest : Text} (h : s.mode.skip t = '?' :: rest)
    (hequals : ∀ tail, rest ≠ '=' :: tail) (hbang : ∀ tail, rest ≠ '!' :: tail)
    (hnamed : ∀ tail, rest ≠ 'P' :: '<' :: tail) (hangle : ∀ tail, rest ≠ '<' :: tail) :
  s.openParenthesis t = s.openFlags rest
  := by
  unfold openParenthesis openFlags
  rw [h]
  split
  case h_7 heq =>
    obtain rfl := (List.cons.inj heq).2
    rfl
  all_goals simp_all

theorem openParenthesis_plain (h : ∀ rest, s.mode.skip t ≠ '?' :: rest) :
  s.openParenthesis t = some (s.openGroup s.mode true, s.mode.skip t)
  := by
  unfold openParenthesis
  split <;> simp_all

theorem suffix_of_openParenthesis (h : s.openParenthesis t = some (s', r)) :
  r <:+ s.mode.skip t
  := by
  unfold openParenthesis at h
  split at h
  · contradiction
  · contradiction
  · contradiction
  · contradiction
  · next rest heq =>
    rw [heq]
    exact (suffix_of_openNamed h).trans ⟨['?', 'P', '<'], rfl⟩
  · next rest _ _ heq =>
    rw [heq]
    exact (suffix_of_openNamed h).trans ⟨['?', '<'], rfl⟩
  · next rest _ _ _ _ _ _ heq =>
    rw [heq]
    exact (suffix_of_openFlags h).trans (List.suffix_cons '?' rest)
  · obtain ⟨-, rfl⟩ := Prod.mk.inj (Option.some.inj h)
    apply List.suffix_rfl

theorem openParenthesis_of_append
    (h : s.openParenthesis (t ++ ')' :: u) = some (s', r ++ ')' :: u)) :
  s.openParenthesis t = some (s', r)
  := by
  have hskip := s.mode.skip_append (suffix_of_openParenthesis h)
  unfold openParenthesis at h
  rw [hskip] at h
  split at h
  · contradiction
  · contradiction
  · contradiction
  · contradiction
  · next rest heq =>
    obtain ⟨x, rfl⟩ := exists_append_of_suffix (suffix_of_openNamed h)
    have hw : s.mode.skip t = '?' :: 'P' :: '<' :: x := List.append_cancel_right heq
    unfold openParenthesis
    rw [hw]
    exact openNamed_of_append h
  · next rest hequals hbang heq =>
    obtain ⟨x, rfl⟩ := exists_append_of_suffix (suffix_of_openNamed h)
    have hw : s.mode.skip t = '?' :: '<' :: x := List.append_cancel_right heq
    rw [openParenthesis_angle hw]
    · exact openNamed_of_append h
    · rintro tail rfl
      exact hequals _ rfl
    · rintro tail rfl
      exact hbang _ rfl
  · next rest hequals hbang _ _ hnamed hangle heq =>
    obtain ⟨x, rfl⟩ := exists_append_of_suffix (suffix_of_openFlags h)
    have hw : s.mode.skip t = '?' :: x := List.append_cancel_right heq
    rw [openParenthesis_flags hw]
    · exact openFlags_of_append h
    · rintro tail rfl
      exact hequals _ rfl
    · rintro tail rfl
      exact hbang _ rfl
    · rintro tail rfl
      exact hnamed _ rfl
    · rintro tail rfl
      exact hangle _ rfl
  · next hmark =>
    obtain ⟨rfl, hw⟩ := Prod.mk.inj (Option.some.inj h)
    rw [openParenthesis_plain, List.append_cancel_right hw]
    intro rest hrest
    rw [hrest] at hmark
    exact hmark _ rfl

/-! ### Steps -/

theorem dropLazy_suffix (t : Text) :
  dropLazy t <:+ t
  := by
  unfold dropLazy
  split
  · next rest => apply List.suffix_cons
  · apply List.suffix_rfl

theorem dropLazy_append (t u : Text) :
  dropLazy (t ++ ')' :: u) = dropLazy t ++ ')' :: u
  := by
  cases t with
  | nil => rfl
  | cons c t =>
    by_cases hc : c = '?'
    · subst hc
      rfl
    · have hplain : ∀ s, dropLazy (c :: s) = c :: s := by
        intro s
        unfold dropLazy
        split
        · next heq => exact absurd (List.cons.inj heq).1 hc
        · rfl
      rw [List.cons_append, hplain, hplain]
      rfl

/-- A step at a brace takes the count behind it. -/
theorem suffix_of_step_brace (h : s.step ('\x7b' :: t) = some (s', r)) :
  r <:+ (s.mode.skip t).tail
  := by
  simp only [step] at h
  split at h
  · next least most rest hbounds =>
    obtain ⟨-, rfl⟩ := map_pair_eq_some_iff.mp h
    apply (dropLazy_suffix _).trans
    exact (s.mode.skip_suffix rest).trans (suffix_of_readBounds hbounds)
  · contradiction

theorem suffix_of_step (h : s.step t = some (s', r)) :
  r <:+ t.tail
  := by
  cases t with
  | nil => contradiction
  | cons c rest =>
    rw [List.tail_cons]
    simp only [step] at h
    split at h
    · exact (suffix_of_openParenthesis h).trans (s.mode.skip_suffix rest)
    · obtain ⟨-, rfl⟩ := map_pair_eq_some_iff.mp h
      apply List.suffix_rfl
    · obtain ⟨-, rfl⟩ := Prod.mk.inj (Option.some.inj h)
      apply List.suffix_rfl
    · obtain ⟨⟨i, r'⟩, hclass, heq⟩ := Option.map_eq_some_iff.mp h
      obtain ⟨-, rfl⟩ := Prod.mk.inj heq
      exact suffix_of_readClass hclass
    · obtain ⟨-, rfl⟩ := map_pair_eq_some_iff.mp h
      apply dropLazy_suffix
    · obtain ⟨-, rfl⟩ := map_pair_eq_some_iff.mp h
      apply dropLazy_suffix
    · obtain ⟨-, rfl⟩ := map_pair_eq_some_iff.mp h
      apply dropLazy_suffix
    · exact (suffix_of_step_brace h).trans
        ((List.tail_suffix _).trans (s.mode.skip_suffix rest))
    · obtain ⟨⟨a, r'⟩, hescape, heq⟩ := Option.map_eq_some_iff.mp h
      obtain ⟨-, rfl⟩ := Prod.mk.inj heq
      exact (suffix_of_readEscape hescape).trans (List.tail_suffix rest)
    · obtain ⟨set, -, heq⟩ := Option.map_eq_some_iff.mp h
      obtain ⟨-, rfl⟩ := Prod.mk.inj heq
      apply List.suffix_rfl
    · obtain ⟨-, rfl⟩ := Prod.mk.inj (Option.some.inj h)
      apply List.suffix_rfl
    · obtain ⟨-, rfl⟩ := Prod.mk.inj (Option.some.inj h)
      apply List.suffix_rfl
    · obtain ⟨-, rfl⟩ := Prod.mk.inj (Option.some.inj h)
      apply List.suffix_rfl

/-- A step that ends before a closing parenthesis is the same on the text before it, if it does
not end at a brace with nothing behind it. -/
theorem step_of_append (h : s.step (t ++ ')' :: u) = some (s', r ++ ')' :: u))
    (hr : ¬ Dangles s'.mode r) :
  s.step t = some (s', r)
  := by
  cases t with
  | nil => exact absurd (suffix_of_step h) not_suffix_self
  | cons c t =>
    rw [List.cons_append] at h
    simp only [step] at h ⊢
    split at h
    · exact openParenthesis_of_append h
    · obtain ⟨hclosed, hrest⟩ := map_pair_eq_some_iff.mp h
      exact map_pair_eq_some_iff.mpr ⟨hclosed, List.append_cancel_right hrest⟩
    · obtain ⟨rfl, hrest⟩ := Prod.mk.inj (Option.some.inj h)
      rw [List.append_cancel_right hrest]
    · obtain ⟨⟨i, r'⟩, hclass, heq⟩ := Option.map_eq_some_iff.mp h
      obtain ⟨rfl, rfl⟩ := Prod.mk.inj heq
      rw [readClass_of_append hclass]
      rfl
    · obtain ⟨hrepeated, hrest⟩ := map_pair_eq_some_iff.mp h
      rw [dropLazy_append] at hrest
      exact map_pair_eq_some_iff.mpr ⟨hrepeated, List.append_cancel_right hrest⟩
    · obtain ⟨hrepeated, hrest⟩ := map_pair_eq_some_iff.mp h
      rw [dropLazy_append] at hrest
      exact map_pair_eq_some_iff.mpr ⟨hrepeated, List.append_cancel_right hrest⟩
    · obtain ⟨hrepeated, hrest⟩ := map_pair_eq_some_iff.mp h
      rw [dropLazy_append] at hrest
      exact map_pair_eq_some_iff.mpr ⟨hrepeated, List.append_cancel_right hrest⟩
    · split at h
      · next least most rest hbounds =>
        obtain ⟨hrepeated, hrest⟩ := map_pair_eq_some_iff.mp h
        have hlazy := dropLazy_suffix (s.mode.skip rest)
        rw [hrest] at hlazy
        obtain ⟨x, rfl⟩ := exists_append_of_suffix (hlazy.trans (s.mode.skip_suffix rest))
        rw [s.mode.skip_append hlazy, dropLazy_append] at hrest
        rw [readBounds_of_append hbounds]
        exact map_pair_eq_some_iff.mpr ⟨hrepeated, List.append_cancel_right hrest⟩
      · contradiction
    · obtain ⟨⟨a, r'⟩, hescape, heq⟩ := Option.map_eq_some_iff.mp h
      obtain ⟨rfl, rfl⟩ := Prod.mk.inj heq
      rw [readEscape_of_append hescape fun l hl => by subst hl; exact hr]
      rfl
    · obtain ⟨set, hset, heq⟩ := Option.map_eq_some_iff.mp h
      obtain ⟨rfl, hrest⟩ := Prod.mk.inj heq
      rw [hset, ← List.append_cancel_right hrest]
      rfl
    · obtain ⟨rfl, hrest⟩ := Prod.mk.inj (Option.some.inj h)
      rw [List.append_cancel_right hrest]
    · obtain ⟨rfl, hrest⟩ := Prod.mk.inj (Option.some.inj h)
      rw [List.append_cancel_right hrest]
    · obtain ⟨rfl, hrest⟩ := Prod.mk.inj (Option.some.inj h)
      rw [List.append_cancel_right hrest]

end State

end DirectiveLint.Pattern
