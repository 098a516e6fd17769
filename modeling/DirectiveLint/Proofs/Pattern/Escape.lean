import DirectiveLint.Pattern.Reader

/-!
# Escapes in front of a closing parenthesis

A reader leaves a suffix of the text that it is given.  If a closing parenthesis and more
follow a text, and a reader leaves both and some of the text before them, then it reads the
same from the text alone: what stands behind makes no difference.  This module says so of
what a mode skips and of escapes (`readEscape_of_append`).  There is one exception, a word
boundary before a brace: whether the brace belongs to it depends on what follows the brace
(`Dangles`).
-/

namespace DirectiveLint.Pattern

variable {m : Mode} {t u r : Text}

/-! ### What is skipped -/

theorem not_suffix_self :
  ¬ r ++ ')' :: u <:+ u
  := by
  intro h
  have := h.length_le
  simp only [List.length_append, List.length_cons] at this
  omega

theorem skipBlanks_suffix (comment : Bool) (t : Text) :
  Mode.skipBlanks comment t <:+ t
  := by
  fun_induction Mode.skipBlanks comment t with
  | case1 _ => apply List.suffix_rfl
  | case2 c t ih => apply ih.trans (List.suffix_cons c t)
  | case3 c t _ ih => apply ih.trans (List.suffix_cons c t)
  | case4 c t _ _ ih => apply ih.trans (List.suffix_cons c t)
  | case5 c t _ _ => apply List.suffix_rfl

theorem Mode.skip_suffix (m : Mode) (t : Text) :
  m.skip t <:+ t
  := by
  unfold Mode.skip
  split
  · apply skipBlanks_suffix
  · apply List.suffix_rfl

@[simp]
theorem Mode.skip_nil (m : Mode) :
  m.skip [] = []
  := List.suffix_nil.mp (m.skip_suffix [])

/-- What holds a suffix with a closing parenthesis ends in the parenthesis and the same. -/
theorem exists_append_of_suffix (h : r ++ ')' :: u <:+ t) :
  ∃ w, t = w ++ ')' :: u
  := by
  obtain ⟨s, rfl⟩ := h
  exact ⟨s ++ r, (List.append_assoc s r _).symm⟩

theorem skipBlanks_of_append {comment : Bool}
    (h : Mode.skipBlanks comment (t ++ ')' :: u) = r ++ ')' :: u) :
  Mode.skipBlanks comment t = r
  := by
  induction t generalizing comment with
  | nil =>
    cases comment with
    | false => exact List.self_eq_append_left.mp h |>.symm
    | true =>
      have hsuffix := skipBlanks_suffix (')' != '\n') u
      rw [List.nil_append, Mode.skipBlanks] at h
      rw [h] at hsuffix
      exact absurd hsuffix not_suffix_self
  | cons c t ih =>
    rw [List.cons_append] at h
    cases comment with
    | true => exact ih h
    | false =>
      unfold Mode.skipBlanks at h ⊢
      split
      · next hblank =>
        rw [if_pos hblank] at h
        apply ih h
      · next hblank =>
        rw [if_neg hblank] at h
        split
        · next hcomment =>
          rw [if_pos hcomment] at h
          apply ih h
        · next hcomment =>
          rw [if_neg hcomment] at h
          apply List.append_cancel_right h

theorem Mode.skip_of_append (h : m.skip (t ++ ')' :: u) = r ++ ')' :: u) :
  m.skip t = r
  := by
  unfold Mode.skip at h ⊢
  split
  · next hverbose =>
    rw [if_pos hverbose] at h
    apply skipBlanks_of_append h
  · next hverbose =>
    rw [if_neg hverbose] at h
    apply List.append_cancel_right h

theorem Mode.skip_append (h : r ++ ')' :: u <:+ m.skip (t ++ ')' :: u)) :
  m.skip (t ++ ')' :: u) = m.skip t ++ ')' :: u
  := by
  obtain ⟨s, hs⟩ := h
  rw [← List.append_assoc] at hs
  rw [← hs, skip_of_append hs.symm]

/-- A character before what is left of a text stands in the text itself. -/
theorem exists_cons_of_append {c : Char} {rest : Text}
    (h : m.skip (t ++ ')' :: u) = c :: rest) (hr : r ++ ')' :: u <:+ rest) :
  ∃ w, m.skip t = c :: w ∧ rest = w ++ ')' :: u
  := by
  obtain ⟨s, rfl⟩ := hr
  rw [← List.append_assoc, ← List.cons_append] at h
  exact ⟨s ++ r, m.skip_of_append h, (List.append_assoc s r _).symm⟩

theorem skipBlanks_append_of_ne_nil {comment : Bool} (h : Mode.skipBlanks comment t ≠ [])
    (u : Text) :
  Mode.skipBlanks comment (t ++ u) = Mode.skipBlanks comment t ++ u
  := by
  fun_induction Mode.skipBlanks comment t with
  | case1 _ => contradiction
  | case2 c t ih => apply ih h
  | case3 c t hblank ih =>
    rw [List.cons_append, Mode.skipBlanks, if_pos hblank]
    apply ih h
  | case4 c t hblank hcomment ih =>
    rw [List.cons_append, Mode.skipBlanks, if_neg hblank, if_pos hcomment]
    apply ih h
  | case5 c t hblank hcomment =>
    rw [List.cons_append, Mode.skipBlanks, if_neg hblank, if_neg hcomment]

theorem Mode.skip_append_of_ne_nil (h : m.skip t ≠ []) (u : Text) :
  m.skip (t ++ u) = m.skip t ++ u
  := by
  unfold Mode.skip at h ⊢
  split
  · next hverbose =>
    rw [if_pos hverbose] at h
    apply skipBlanks_append_of_ne_nil h
  · rfl

theorem exists_append_of_skip (h : m.skip t = r ++ ')' :: u) :
  ∃ w, t = w ++ ')' :: u ∧ m.skip w = r
  := by
  obtain ⟨s, hs⟩ := m.skip_suffix t
  rw [h, ← List.append_assoc] at hs
  subst hs
  exact ⟨s ++ r, rfl, m.skip_of_append h⟩

/-! ### Hexadecimal escapes and properties -/

theorem suffix_of_takeBraced {fuel : Nat} {cs : Text} (h : takeBraced m fuel t = some (cs, r)) :
  r <:+ (m.skip t).tail
  := by
  induction fuel generalizing t cs with
  | zero => contradiction
  | succ fuel ih =>
    unfold takeBraced at h
    split at h
    · contradiction
    · next rest hskip =>
      rw [hskip]
      obtain ⟨-, rfl⟩ := Prod.mk.inj (Option.some.inj h)
      apply List.suffix_rfl
    · next c rest _ hskip =>
      rw [hskip]
      obtain ⟨⟨ds, r'⟩, htake, heq⟩ := Option.map_eq_some_iff.mp h
      obtain ⟨-, rfl⟩ := Prod.mk.inj heq
      apply (ih htake).trans
      apply (List.tail_suffix _).trans (m.skip_suffix rest)

theorem takeBraced_of_append {fuel fuel' : Nat} {cs : Text}
    (h : takeBraced m fuel (t ++ ')' :: u) = some (cs, r ++ ')' :: u))
    (hfuel : t.length < fuel') :
  takeBraced m fuel' t = some (cs, r)
  := by
  induction fuel generalizing t cs fuel' with
  | zero => contradiction
  | succ fuel ih =>
    obtain ⟨fuel', rfl⟩ := Nat.exists_eq_add_one_of_ne_zero (Nat.ne_zero_of_lt hfuel)
    have hlength := (m.skip_suffix t).length_le
    unfold takeBraced at h ⊢
    split at h
    · contradiction
    · next rest hskip =>
      obtain ⟨rfl, rfl⟩ := Prod.mk.inj (Option.some.inj h)
      rw [m.skip_of_append (r := '\x7d' :: r) hskip]
      rfl
    · next c rest hne hskip =>
      obtain ⟨⟨ds, r'⟩, htake, heq⟩ := Option.map_eq_some_iff.mp h
      obtain ⟨rfl, rfl⟩ := Prod.mk.inj heq
      have hsuffix := (suffix_of_takeBraced htake).trans (List.tail_suffix _)
      obtain ⟨w, hw, rfl⟩ := exists_cons_of_append hskip (hsuffix.trans (m.skip_suffix rest))
      rw [hw, List.length_cons] at hlength
      rw [hw]
      simp only [ih htake (Nat.lt_of_lt_of_le hlength (Nat.le_of_lt_succ hfuel)), Option.map_some]


theorem suffix_of_takeDigits {n : Nat} {cs : Text} (h : takeDigits m n t = some (cs, r)) :
  r <:+ t
  := by
  induction n generalizing t cs with
  | zero =>
    obtain ⟨-, rfl⟩ := Prod.mk.inj (Option.some.inj h)
    apply List.suffix_rfl
  | succ n ih =>
    unfold takeDigits at h
    split at h
    · contradiction
    · next c rest hskip =>
      obtain ⟨⟨ds, r'⟩, htake, heq⟩ := Option.map_eq_some_iff.mp h
      obtain ⟨-, rfl⟩ := Prod.mk.inj heq
      apply (ih htake).trans
      apply (List.suffix_cons c rest).trans
      rw [← hskip]
      apply m.skip_suffix

theorem takeDigits_of_append {n : Nat} {cs : Text}
    (h : takeDigits m n (t ++ ')' :: u) = some (cs, r ++ ')' :: u)) :
  takeDigits m n t = some (cs, r)
  := by
  induction n generalizing t cs with
  | zero =>
    obtain ⟨rfl, hr⟩ := Prod.mk.inj (Option.some.inj h)
    rw [List.append_cancel_right hr]
    rfl
  | succ n ih =>
    unfold takeDigits at h ⊢
    split at h
    · contradiction
    · next c rest hskip =>
      obtain ⟨⟨ds, r'⟩, htake, heq⟩ := Option.map_eq_some_iff.mp h
      obtain ⟨rfl, rfl⟩ := Prod.mk.inj heq
      have hsuffix := suffix_of_takeDigits htake
      obtain ⟨w, hw, rfl⟩ := exists_cons_of_append hskip hsuffix
      rw [hw]
      dsimp only
      rw [ih htake]
      rfl

theorem suffix_of_readHex {width : Nat} {a : Atom} (h : readHex m width t = some (a, r)) :
  r <:+ m.skip t
  := by
  unfold readHex at h
  split at h
  · next rest hskip =>
    rw [hskip]
    split at h
    · next digits r' htake =>
      split at h
      · contradiction
      · obtain ⟨c, -, heq⟩ := Option.map_eq_some_iff.mp h
        obtain ⟨-, rfl⟩ := Prod.mk.inj heq
        apply (m.skip_suffix r').trans
        apply (suffix_of_takeBraced htake).trans
        apply (List.tail_suffix _).trans
        apply (m.skip_suffix rest).trans (List.suffix_cons _ rest)
    · contradiction
  · split at h
    · next digits r' htake =>
      split at h
      · contradiction
      · split at h
        · contradiction
        · obtain ⟨c, -, heq⟩ := Option.map_eq_some_iff.mp h
          obtain ⟨-, rfl⟩ := Prod.mk.inj heq
          apply (m.skip_suffix r').trans (suffix_of_takeDigits htake)
    · contradiction

theorem readHex_of_append {width : Nat} {a : Atom}
    (h : readHex m width (t ++ ')' :: u) = some (a, r ++ ')' :: u)) :
  readHex m width t = some (a, r)
  := by
  have hskip := m.skip_append (suffix_of_readHex h)
  unfold readHex at h ⊢
  split at h
  · next rest hbrace =>
    split at h
    · next digits r' htake =>
      split at h
      · contradiction
      · next hdigits =>
        obtain ⟨c, hc, heq⟩ := Option.map_eq_some_iff.mp h
        obtain ⟨rfl, hr⟩ := Prod.mk.inj heq
        obtain ⟨x, rfl, hx⟩ := exists_append_of_skip hr
        have hsuffix := (suffix_of_takeBraced htake).trans (List.tail_suffix _)
        obtain ⟨w, hw, rfl⟩ := exists_cons_of_append hbrace (hsuffix.trans (m.skip_suffix rest))
        rw [hw]
        simp only [takeBraced_of_append htake (Nat.lt_succ_self _), hdigits, hc, hx]
        rfl
    · contradiction
  · next hne =>
    rw [hskip] at h hne
    split at h
    · next digits r' htake =>
      split at h
      · contradiction
      · next hdigits =>
        split at h
        · contradiction
        · next hascii =>
          obtain ⟨c, hc, heq⟩ := Option.map_eq_some_iff.mp h
          obtain ⟨rfl, hr⟩ := Prod.mk.inj heq
          obtain ⟨x, rfl, hx⟩ := exists_append_of_skip hr
          split
          · next rest hbrace =>
            rw [hbrace] at hne
            exact absurd rfl (hne _)
          · simp only [takeDigits_of_append htake, hdigits, hascii, hc, hx]
            rfl
    · contradiction

theorem suffix_of_readProperty {negated : Bool} {a : Atom}
    (h : readProperty m negated t = some (a, r)) :
  r <:+ (m.skip t).tail
  := by
  unfold readProperty at h
  dsimp only at h
  split at h
  · contradiction
  · split at h
    · contradiction
    · next rest hskip =>
      rw [hskip]
      split at h
      · next name r' htake =>
        split at h
        · obtain ⟨s, -, heq⟩ := Option.map_eq_some_iff.mp h
          obtain ⟨-, rfl⟩ := Prod.mk.inj heq
          apply (suffix_of_takeBraced htake).trans
          apply (List.tail_suffix _).trans (m.skip_suffix rest)
        · contradiction
      · contradiction
    · contradiction
    · next c rest _ _ hskip =>
      rw [hskip]
      split at h
      · obtain ⟨s, -, heq⟩ := Option.map_eq_some_iff.mp h
        obtain ⟨-, rfl⟩ := Prod.mk.inj heq
        apply m.skip_suffix
      · contradiction

theorem readProperty_of_append {negated : Bool} {a : Atom}
    (h : readProperty m negated (t ++ ')' :: u) = some (a, r ++ ')' :: u)) :
  readProperty m negated t = some (a, r)
  := by
  unfold readProperty at h ⊢
  dsimp only at h ⊢
  split at h
  · contradiction
  · next hunicode =>
    rw [if_neg hunicode]
    split at h
    · contradiction
    · next rest hbrace =>
      split at h
      · next name r' htake =>
        split at h
        · next s hs =>
          obtain ⟨s', hs', heq⟩ := Option.map_eq_some_iff.mp h
          obtain ⟨rfl, rfl⟩ := Prod.mk.inj heq
          have hsuffix := (suffix_of_takeBraced htake).trans (List.tail_suffix _)
          obtain ⟨w, hw, rfl⟩ := exists_cons_of_append hbrace (hsuffix.trans (m.skip_suffix rest))
          rw [hw]
          simp only [takeBraced_of_append htake (Nat.lt_succ_self _), hs, hs']
          rfl
        · contradiction
      · contradiction
    · contradiction
    · next c rest hnebrace hnescape hskip =>
      split at h
      · next s hs =>
        obtain ⟨s', hs', heq⟩ := Option.map_eq_some_iff.mp h
        obtain ⟨rfl, hr⟩ := Prod.mk.inj heq
        obtain ⟨x, rfl, hx⟩ := exists_append_of_skip hr
        rw [m.skip_of_append (r := c :: x) hskip]
        simp only [hs, hs', hx, Option.map_some]
      · contradiction

/-! ### Word boundaries -/

theorem suffix_of_takeBoundaryName (fuel : Nat) (t : Text) :
  (takeBoundaryName m fuel t).2 <:+ t
  := by
  induction fuel generalizing t with
  | zero => apply List.suffix_rfl
  | succ fuel ih =>
    have hskip := m.skip_suffix t
    unfold takeBoundaryName
    split
    · next c rest heq =>
      rw [heq] at hskip
      split
      · apply (ih rest).trans
        apply (List.suffix_cons c rest).trans hskip
      · apply hskip
    · apply List.nil_suffix

theorem suffix_skip_of_takeBoundaryName (fuel : Nat) (t : Text) :
  (takeBoundaryName m (fuel + 1) t).2 <:+ m.skip t
  := by
  unfold takeBoundaryName
  split
  · next c rest heq =>
    rw [heq]
    split
    · apply (suffix_of_takeBoundaryName fuel rest).trans (List.suffix_cons c rest)
    · apply List.suffix_rfl
  · apply List.nil_suffix

theorem takeBoundaryName_of_append {fuel fuel' : Nat} {name : Text}
    (h : takeBoundaryName m fuel (t ++ ')' :: u) = (name, r ++ ')' :: u))
    (hfuel : t.length < fuel) (hfuel' : t.length < fuel') :
  takeBoundaryName m fuel' t = (name, r)
  := by
  induction fuel generalizing t name fuel' with
  | zero => contradiction
  | succ fuel ih =>
    obtain ⟨fuel', rfl⟩ := Nat.exists_eq_add_one_of_ne_zero (Nat.ne_zero_of_lt hfuel')
    have hlength := (m.skip_suffix t).length_le
    unfold takeBoundaryName at h ⊢
    split at h
    · next c rest hskip =>
      split at h
      · next hc =>
        obtain ⟨rfl, hr⟩ := Prod.mk.inj h
        have hsuffix := suffix_of_takeBoundaryName (m := m) fuel rest
        rw [hr] at hsuffix
        obtain ⟨w, hw, rfl⟩ := exists_cons_of_append hskip hsuffix
        rw [hw, List.length_cons] at hlength
        rw [hw]
        dsimp only
        rw [if_pos hc, ih (Prod.ext rfl hr) (by omega) (by omega)]
      · next hc =>
        obtain ⟨rfl, hr⟩ := Prod.mk.inj h
        rw [hr] at hskip
        rw [m.skip_of_append hskip]
        cases r with
        | nil => rfl
        | cons d r =>
          obtain ⟨rfl, -⟩ := List.cons.inj hr
          dsimp only
          rw [if_neg hc]
    · next hskip =>
      have := congrArg List.length (Prod.mk.inj h).2
      simp at this

theorem Mode.skip_brace (m : Mode) (t : Text) :
  m.skip ('\x7b' :: t) = '\x7b' :: t
  := by
  unfold Mode.skip
  split <;> rfl

/-- A text starts with a brace with nothing behind it. -/
def Dangles (m : Mode) (t : Text) : Prop := ∃ rest, t = '\x7b' :: rest ∧ m.skip rest = []

/-- What a word boundary with a name in braces stands for. -/
def boundaryNamed? (m : Mode) (name : Text) : Option Look :=
  match String.ofList name with
  | "start" => some (.wordStart m.wordSet)
  | "end" => some (.wordStop m.wordSet)
  | "start-half" => some (.afterNonWord m.wordSet)
  | "end-half" => some (.beforeNonWord m.wordSet)
  | _ => none

/-- How a word boundary is read: with no brace behind it, before the brace of a count, or with
a name in braces. -/
inductive ReadsBoundary (m : Mode) : Text → Look → Text → Prop
  | bare {t : Text} : (∀ rest, t ≠ '\x7b' :: rest) →
    ReadsBoundary m t (.boundary m.wordSet) t
  | count {rest w : Text} {c : Char} : m.skip rest = c :: w → isBoundaryChar c = false →
    ReadsBoundary m ('\x7b' :: rest) (.boundary m.wordSet) ('\x7b' :: rest)
  | named {rest w name r : Text} {c : Char} {l : Look} : m.skip rest = c :: w →
    isBoundaryChar c = true → takeBoundaryName m (rest.length + 1) rest = (name, '\x7d' :: r) →
    boundaryNamed? m name = some l → ReadsBoundary m ('\x7b' :: rest) l r

theorem readBoundary_of_ne (h : ∀ rest, t ≠ '\x7b' :: rest) :
  readBoundary m t = some (.look (.boundary m.wordSet), t)
  := by
  unfold readBoundary
  split
  · next rest => exact absurd rfl (h rest)
  · rfl

theorem readBoundary_cons {rest w : Text} {c : Char} (h : m.skip rest = c :: w) :
  readBoundary m ('\x7b' :: rest)
    = if isBoundaryChar c = false then some (.look (.boundary m.wordSet), '\x7b' :: rest)
      else match takeBoundaryName m (rest.length + 1) rest with
        | (name, '\x7d' :: r) => (boundaryNamed? m name).map fun l => (.look l, r)
        | _ => none
  := by
  simp only [readBoundary, h, Bool.not_eq_eq_eq_not, Bool.not_true]
  generalize takeBoundaryName m (rest.length + 1) rest = taken
  split
  · rfl
  · split
    · unfold boundaryNamed?
      split <;> simp_all
    · simp_all

theorem readBoundary_eq_some_iff {a : Atom} :
  readBoundary m t = some (a, r) ↔ ∃ l, a = .look l ∧ ReadsBoundary m t l r
  := by
  constructor
  · intro h
    by_cases hbrace : ∃ rest, t = '\x7b' :: rest
    · obtain ⟨rest, rfl⟩ := hbrace
      cases hskip : m.skip rest with
      | nil =>
        simp only [readBoundary, hskip] at h
        contradiction
      | cons c w =>
        rw [readBoundary_cons hskip] at h
        split at h
        · next hc =>
          obtain ⟨rfl, rfl⟩ := Prod.mk.inj (Option.some.inj h)
          exact ⟨_, rfl, .count hskip hc⟩
        · next hc =>
          split at h
          · next name r' htake =>
            obtain ⟨l, hname, heq⟩ := Option.map_eq_some_iff.mp h
            obtain ⟨rfl, rfl⟩ := Prod.mk.inj heq
            exact ⟨l, rfl, .named hskip (Bool.not_eq_false _ ▸ hc) htake hname⟩
          · contradiction
    · rw [readBoundary_of_ne (not_exists.mp hbrace)] at h
      obtain ⟨rfl, rfl⟩ := Prod.mk.inj (Option.some.inj h)
      exact ⟨_, rfl, .bare (not_exists.mp hbrace)⟩
  · rintro ⟨l, rfl, h⟩
    cases h with
    | bare hne => apply readBoundary_of_ne hne
    | count hskip hc => rw [readBoundary_cons hskip, if_pos hc]
    | named hskip hc htake hname =>
      rw [readBoundary_cons hskip, if_neg (ne_false_of_eq_true hc), htake]
      simp only [hname, Option.map_some]

theorem ReadsBoundary.suffix {l : Look} (h : ReadsBoundary m t l r) :
  r <:+ t
  := by
  cases h with
  | bare _ => apply List.suffix_rfl
  | count _ _ => apply List.suffix_rfl
  | @named rest _ _ _ _ _ _ _ htake _ =>
    have hsuffix := suffix_of_takeBoundaryName (m := m) (rest.length + 1) rest
    rw [htake] at hsuffix
    apply (List.suffix_cons _ r).trans
    apply hsuffix.trans (List.suffix_cons _ rest)

theorem exists_cons_of_append_eq {c : Char} {rest : Text} (hc : c ≠ ')')
    (h : t ++ ')' :: u = c :: rest) :
  ∃ w, t = c :: w ∧ rest = w ++ ')' :: u
  := by
  cases t with
  | nil => exact absurd (List.cons.inj h).1.symm hc
  | cons d w =>
    obtain ⟨rfl, rfl⟩ := List.cons.inj h
    exact ⟨w, rfl, rfl⟩

/-- Only a condition can be read in another way for what stands behind it: one that a brace
follows which has nothing behind it. -/
theorem ReadsBoundary.of_append {l : Look}
    (h : ReadsBoundary m (t ++ ')' :: u) l (r ++ ')' :: u)) (hr : ¬ Dangles m r) :
  ReadsBoundary m t l r
  := by
  generalize hT : t ++ ')' :: u = T at h
  generalize hR : r ++ ')' :: u = R at h
  cases h with
  | bare hne =>
    obtain rfl := List.append_cancel_right (hT.trans hR.symm)
    apply ReadsBoundary.bare
    rintro rest rfl
    exact hne _ hT.symm
  | @count rest w c hskip hc =>
    obtain rfl := List.append_cancel_right (hT.trans hR.symm)
    obtain ⟨rest, rfl, rfl⟩ := exists_cons_of_append_eq (by decide) hT
    have hne : m.skip rest ≠ [] := fun hnil => hr ⟨rest, rfl, hnil⟩
    obtain ⟨d, w', hw⟩ := List.exists_cons_of_ne_nil hne
    rw [m.skip_append_of_ne_nil hne, hw] at hskip
    obtain ⟨rfl, -⟩ := List.cons.inj hskip
    exact .count hw hc
  | @named rest w name r' c l hskip hc htake hname =>
    subst hR
    obtain ⟨rest, rfl, rfl⟩ := exists_cons_of_append_eq (by decide) hT
    have htake' := takeBoundaryName_of_append (r := '\x7d' :: r) htake
      (Nat.lt_succ_of_le (by simp)) (Nat.lt_succ_self _)
    have hsuffix := suffix_skip_of_takeBoundaryName (m := m) (rest ++ ')' :: u).length
      (rest ++ ')' :: u)
    rw [htake] at hsuffix
    rw [m.skip_append ((List.suffix_cons _ _).trans hsuffix)] at hskip
    cases hrest : m.skip rest with
    | nil =>
      rw [hrest] at hskip
      obtain ⟨rfl, -⟩ := List.cons.inj hskip
      contradiction
    | cons d w' =>
      rw [hrest] at hskip
      obtain ⟨rfl, -⟩ := List.cons.inj hskip
      exact .named hrest hc htake' hname

/-! ### Escapes -/

/-- The escapes that are read further behind their letter. -/
def longEscapes : List Char := ['x', 'u', 'U', 'p', 'P', 'b']

theorem mem_longEscapes_iff {c : Char} :
  c ∈ longEscapes ↔ c = 'x' ∨ c = 'u' ∨ c = 'U' ∨ c = 'p' ∨ c = 'P' ∨ c = 'b'
  := by simp [longEscapes]

/-- Any other escape is one character. -/
theorem readEscape_cons {c : Char} (hc : c ∉ longEscapes) (rest : Text) :
  readEscape m (c :: rest) = (readEscape m [c]).map fun read => (read.1, rest)
  := by
  simp only [mem_longEscapes_iff, not_or] at hc
  simp only [readEscape]
  split <;> simp_all [Function.comp_def]

theorem suffix_of_readEscape {a : Atom} (h : readEscape m t = some (a, r)) :
  r <:+ t.tail
  := by
  cases t with
  | nil => contradiction
  | cons c rest =>
    rw [List.tail_cons]
    by_cases hc : c ∈ longEscapes
    · rcases mem_longEscapes_iff.mp hc with rfl | rfl | rfl | rfl | rfl | rfl
      · exact (suffix_of_readHex h).trans (m.skip_suffix rest)
      · exact (suffix_of_readHex h).trans (m.skip_suffix rest)
      · exact (suffix_of_readHex h).trans (m.skip_suffix rest)
      · exact ((suffix_of_readProperty h).trans (List.tail_suffix _)).trans (m.skip_suffix rest)
      · exact ((suffix_of_readProperty h).trans (List.tail_suffix _)).trans (m.skip_suffix rest)
      · obtain ⟨l, -, hl⟩ := readBoundary_eq_some_iff.mp h
        exact hl.suffix
    · rw [readEscape_cons hc] at h
      obtain ⟨read, -, heq⟩ := Option.map_eq_some_iff.mp h
      obtain ⟨-, rfl⟩ := Prod.mk.inj heq
      apply List.suffix_rfl

theorem readEscape_of_append {a : Atom}
    (h : readEscape m (t ++ ')' :: u) = some (a, r ++ ')' :: u))
    (hr : ∀ l, a = .look l → ¬ Dangles m r) :
  readEscape m t = some (a, r)
  := by
  cases t with
  | nil => exact absurd (suffix_of_readEscape h) not_suffix_self
  | cons c rest =>
    rw [List.cons_append] at h
    by_cases hc : c ∈ longEscapes
    · rcases mem_longEscapes_iff.mp hc with rfl | rfl | rfl | rfl | rfl | rfl
      · exact readHex_of_append h
      · exact readHex_of_append h
      · exact readHex_of_append h
      · exact readProperty_of_append h
      · exact readProperty_of_append h
      · obtain ⟨l, rfl, hl⟩ := readBoundary_eq_some_iff.mp h
        exact readBoundary_eq_some_iff.mpr ⟨l, rfl, hl.of_append (hr l rfl)⟩
    · rw [readEscape_cons hc] at h ⊢
      obtain ⟨read, hread, heq⟩ := Option.map_eq_some_iff.mp h
      obtain ⟨rfl, hrest⟩ := Prod.mk.inj heq
      rw [List.append_cancel_right hrest, hread]
      rfl

end DirectiveLint.Pattern
