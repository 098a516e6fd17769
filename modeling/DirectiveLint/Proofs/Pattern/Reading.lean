import DirectiveLint.Proofs.Pattern.Step

/-!
# Readings of patterns

A pattern is read step by step from its start (`State.Reads`), and to its end if it can be
read at all (`State.run_eq_some_iff`).  A reading that stops at a closing parenthesis does not
depend on what stands behind that parenthesis (`State.Reads.of_append`).  Inside a further
group everything is read as without it, up to the parenthesis that closes the group
(`State.Reads.exists_closes`), and no step changes what the outermost group was opened with
(`State.Reads.getLast?_frames`).
-/

namespace DirectiveLint.Pattern.State

variable {s s' s₁ s₂ : State} {t t' t₁ t₂ u r : Text} {base : Group}

/-! ### Readings -/

/-- Steps that lead from a state and a text to another state and what is left of the text. -/
inductive Reads : State → Text → State → Text → Prop
  | refl (s : State) (t : Text) : Reads s t s t
  | step {s s₁ s' : State} {t t₁ t' : Text} :
    s.step (s.mode.skip t) = some (s₁, t₁) → Reads s₁ t₁ s' t' → Reads s t s' t'

theorem Reads.eq_or_step (h : Reads s t s' t') :
  s = s' ∧ t = t' ∨ ∃ s₁ t₁, s.step (s.mode.skip t) = some (s₁, t₁) ∧ Reads s₁ t₁ s' t'
  := by
  cases h with
  | refl => exact .inl ⟨rfl, rfl⟩
  | step hstep hmore => exact .inr ⟨_, _, hstep, hmore⟩

theorem Reads.suffix (h : Reads s t s' t') :
  t' <:+ t
  := by
  induction h with
  | refl s t => apply List.suffix_rfl
  | @step s s₁ s' t t₁ t' hstep _ ih =>
    apply ih.trans
    apply (suffix_of_step hstep).trans
    apply (List.tail_suffix _).trans (s.mode.skip_suffix t)

/-- Readings that cannot go on end in the same state. -/
theorem Reads.unique (h₁ : Reads s t s₁ t₁) (h₂ : Reads s t s₂ t₂)
    (hend₁ : s₁.step (s₁.mode.skip t₁) = none) (hend₂ : s₂.step (s₂.mode.skip t₂) = none) :
  s₁ = s₂ ∧ t₁ = t₂
  := by
  induction h₁ with
  | refl s t =>
    cases h₂ with
    | refl => exact ⟨rfl, rfl⟩
    | step hstep _ =>
      rw [hend₁] at hstep
      contradiction
  | step hstep _ ih =>
    cases h₂ with
    | refl =>
      rw [hend₂] at hstep
      contradiction
    | step hstep' hmore =>
      rw [hstep] at hstep'
      obtain ⟨rfl, rfl⟩ := Prod.mk.inj (Option.some.inj hstep')
      exact ih hmore hend₁

/-- A run is a reading to the end of the text. -/
theorem run_eq_some_iff {fuel : Nat} (hfuel : t.length < fuel) :
  run fuel s t = some s' ↔ ∃ t', Reads s t s' t' ∧ s'.mode.skip t' = []
  := by
  induction fuel generalizing s t with
  | zero => contradiction
  | succ fuel ih =>
    have hlength := (s.mode.skip_suffix t).length_le
    unfold run
    split
    · next hskip =>
      constructor
      · intro h
        obtain rfl := Option.some.inj h
        exact ⟨t, .refl s t, hskip⟩
      · rintro ⟨t', hreads, hend⟩
        cases hreads with
        | refl => rfl
        | step hstep _ =>
          rw [hskip] at hstep
          contradiction
    · next hskip =>
      cases hstep : s.step (s.mode.skip t) with
      | none =>
        refine iff_of_false (fun h => by contradiction) ?_
        rintro ⟨t', hreads, hend⟩
        cases hreads with
        | refl => exact hskip hend
        | step hstep' _ =>
          rw [hstep] at hstep'
          contradiction
      | some next =>
        obtain ⟨s₁, t₁⟩ := next
        have hless : t₁.length < fuel := by
          have hpos := List.length_pos_iff.mpr hskip
          have hsuffix := (suffix_of_step hstep).length_le
          rw [List.length_tail] at hsuffix
          omega
        dsimp only
        rw [ih hless]
        constructor
        · rintro ⟨t', hreads, hend⟩
          exact ⟨t', .step hstep hreads, hend⟩
        · rintro ⟨t', hreads, hend⟩
          cases hreads with
          | refl => exact absurd hend hskip
          | step hstep' hmore =>
            rw [hstep] at hstep'
            obtain ⟨rfl, rfl⟩ := Prod.mk.inj (Option.some.inj hstep')
            exact ⟨t', hmore, hend⟩

/-- A reading that ends before a closing parenthesis is the same on the text before it. -/
theorem Reads.of_append (h : Reads s (t ++ ')' :: u) s' (r ++ ')' :: u))
    (hr : (s'.mode.skip r).head? ≠ some '\x7b') :
  Reads s t s' r
  := by
  generalize hT : t ++ ')' :: u = T at h
  generalize hR : r ++ ')' :: u = R at h
  induction h generalizing t with
  | refl s T =>
    subst hT
    rw [List.append_cancel_right hR]
    exact .refl s t
  | @step s s₁ s' T T₁ R hstep hmore ih =>
    subst hT hR
    have hsuffix := suffix_of_step hstep
    obtain ⟨w, rfl⟩ := exists_append_of_suffix hmore.suffix
    rw [s.mode.skip_append (hsuffix.trans (List.tail_suffix _))] at hstep
    apply Reads.step _ (ih hr rfl rfl)
    apply step_of_append hstep
    rintro ⟨rest, rfl, hrest⟩
    rcases hmore.eq_or_step with ⟨rfl, heq⟩ | ⟨s₂, t₂, hnext, hlast⟩
    · rw [← List.append_cancel_right heq, Mode.skip_brace] at hr
      exact hr rfl
    · -- a step at the brace would end behind the parenthesis
      rw [List.cons_append, Mode.skip_brace] at hnext
      have hbehind := hlast.suffix.trans (suffix_of_step_brace hnext)
      rw [s₁.mode.skip_append (hbehind.trans (List.tail_suffix _)), hrest] at hbehind
      exact not_suffix_self hbehind

/-! ### Inside a further group -/

/-- The state with a further open group around all others. -/
def inside (s : State) (base : Group) : State := { s with outer := s.outer ++ [base] }

/-- The state behind the parenthesis that closes the innermost group into a group. -/
def closedInto (s : State) (base : Group) : State :=
  { s with
    mode := s.group.outerMode, group := base.push (s.group.whole.inGroup s.group.marks),
    outer := [] }

/-- The same result inside a further group. -/
def withBase (base : Group) : Option (State × Text) → Option (State × Text) :=
  Option.map fun read => (read.1.inside base, read.2)

theorem openNamed_inside (s : State) (base : Group) (t : Text) :
  (s.inside base).openNamed t = withBase base (s.openNamed t)
  := by
  unfold openNamed
  rcases readName t with _ | ⟨name, rest⟩
  · rfl
  · by_cases hnew : s.names.contains name
    · have hinside : (s.inside base).names.contains name := hnew
      simp only [if_pos hnew, if_pos hinside]
      rfl
    · have hinside : ¬ (s.inside base).names.contains name := hnew
      simp only [if_neg hnew, if_neg hinside]
      rfl

theorem openFlags_inside (s : State) (base : Group) (t : Text) :
  (s.inside base).openFlags t = withBase base (s.openFlags t)
  := by
  have hmode : (s.inside base).mode = s.mode := rfl
  unfold openFlags
  rw [hmode]
  rcases readFlags s.mode [] true false t with _ | ⟨m, _ | _, rest⟩ <;> rfl

theorem openParenthesis_inside (s : State) (base : Group) (t : Text) :
  (s.inside base).openParenthesis t = withBase base (s.openParenthesis t)
  := by
  have hmode : (s.inside base).mode = s.mode := rfl
  fun_cases openParenthesis s t with
  | case1 _ hskip => simp only [openParenthesis, hmode, hskip]; rfl
  | case2 _ hskip => simp only [openParenthesis, hmode, hskip]; rfl
  | case3 _ hskip => simp only [openParenthesis, hmode, hskip]; rfl
  | case4 _ hskip => simp only [openParenthesis, hmode, hskip]; rfl
  | case5 rest hskip => simp only [openParenthesis, hmode, hskip, openNamed_inside]
  | case6 rest hequals hbang hskip =>
    rw [openParenthesis_angle (s := s.inside base) hskip hequals hbang, openNamed_inside]
  | case7 rest hequals hbang _ _ hnamed hangle hskip m rest' hflags =>
    rw [openParenthesis_flags (s := s.inside base) hskip hequals hbang hnamed hangle,
      openFlags_inside, openFlags, hflags]
  | case8 rest hequals hbang _ _ hnamed hangle hskip m rest' hflags =>
    rw [openParenthesis_flags (s := s.inside base) hskip hequals hbang hnamed hangle,
      openFlags_inside, openFlags, hflags]
  | case9 rest hequals hbang _ _ hnamed hangle hskip hflags =>
    rw [openParenthesis_flags (s := s.inside base) hskip hequals hbang hnamed hangle,
      openFlags_inside, openFlags, hflags]
  | case10 _ _ _ _ _ _ hmark =>
    rw [openParenthesis_plain (s := s.inside base) hmark]
    rfl

theorem repeatLast_inside (s : State) (base : Group) (least : Nat) (most : Option Nat) :
  (s.inside base).repeatLast least most = (s.repeatLast least most).map (·.inside base)
  := by
  unfold repeatLast inside
  dsimp only
  split <;> rfl

theorem closeGroup_inside (s : State) (base : Group) (h : s.outer ≠ []) :
  (s.inside base).closeGroup = s.closeGroup.map (·.inside base)
  := by
  unfold closeGroup inside
  dsimp only
  cases houter : s.outer with
  | nil => contradiction
  | cons parent outer => rfl

theorem closeGroup_inside_of_nil (s : State) (base : Group) (h : s.outer = []) :
  (s.inside base).closeGroup = some (s.closedInto base)
  := by
  unfold closeGroup inside closedInto
  dsimp only
  rw [h]
  rfl

theorem step_inside_of_not {c : Char} (hcloses : ¬ (c = ')' ∧ s.outer = [])) (t : Text) :
  (s.inside base).step (c :: t) = withBase base (s.step (c :: t))
  := by
  have hmode : (s.inside base).mode = s.mode := rfl
  have hrepeat : ∀ least most rest, ((s.inside base).repeatLast least most).map (·, rest)
      = withBase base ((s.repeatLast least most).map (·, rest)) := by
    intro least most rest
    rw [repeatLast_inside]
    cases s.repeatLast least most <;> rfl
  simp only [step, hmode]
  split
  · apply openParenthesis_inside
  · have houter : s.outer ≠ [] := fun h => hcloses ⟨rfl, h⟩
    rw [closeGroup_inside s base houter]
    cases s.closeGroup <;> rfl
  · rfl
  · cases readClass s.mode t <;> rfl
  · apply hrepeat
  · apply hrepeat
  · apply hrepeat
  · rcases readBounds s.mode t with _ | ⟨⟨least, most⟩, rest⟩
    · rfl
    · apply hrepeat
  · rcases readEscape s.mode t with _ | ⟨a, rest⟩
    · rfl
    · cases a <;> rfl
  · cases s.mode.dot? <;> rfl
  · rfl
  · rfl
  · rfl

/-- A step inside a further group is the same step, or it closes that group. -/
theorem step_inside (h : (s.inside base).step t = some (s', r)) :
  (∃ s₁, s.step t = some (s₁, r) ∧ s' = s₁.inside base)
    ∨ s.outer = [] ∧ t = ')' :: r ∧ s' = s.closedInto base
  := by
  cases t with
  | nil => contradiction
  | cons c rest =>
    by_cases hcloses : c = ')' ∧ s.outer = []
    · obtain ⟨rfl, houter⟩ := hcloses
      simp only [step, closeGroup_inside_of_nil s base houter] at h
      obtain ⟨rfl, rfl⟩ := Prod.mk.inj (Option.some.inj h)
      exact .inr ⟨houter, rfl, rfl⟩
    · rw [step_inside_of_not hcloses] at h
      obtain ⟨⟨s₁, r₁⟩, hs₁, heq⟩ := Option.map_eq_some_iff.mp h
      obtain ⟨rfl, rfl⟩ := Prod.mk.inj heq
      exact .inl ⟨s₁, hs₁, rfl⟩

/-- A reading inside a further group that closes it goes without it up to the parenthesis that
closes it. -/
theorem Reads.exists_closes (h : Reads (s.inside base) t s' t') (hclosed : s'.outer = []) :
  ∃ s₁ t₁ u, Reads s t s₁ t₁ ∧ s₁.mode.skip t₁ = ')' :: u ∧ s₁.outer = []
    ∧ Reads (s₁.closedInto base) u s' t'
  := by
  generalize hS : s.inside base = S at h
  induction h generalizing s with
  | refl S t =>
    subst hS
    exact absurd hclosed (List.append_ne_nil_of_right_ne_nil _ (List.cons_ne_nil _ _))
  | @step S s₁ s' t t₁ t' hstep hmore ih =>
    subst hS
    rcases step_inside hstep with ⟨s₂, hs₂, rfl⟩ | ⟨houter, ht, rfl⟩
    · obtain ⟨s₃, t₃, u, hreads, hskip, houter, hbehind⟩ := ih hclosed rfl
      exact ⟨s₃, t₃, u, .step hs₂ hreads, hskip, houter, hbehind⟩
    · exact ⟨s, t, t₁, .refl s t, ht, houter, hmore⟩

/-! ### The outermost group -/

/-- What the open groups were opened with, the innermost first: the mode that holds behind a
group, and whether it marks what it matches. -/
def frames (s : State) : List (Mode × Bool) :=
  (s.group :: s.outer).map fun g => (g.outerMode, g.marks)

theorem getLast?_frames_of_openNamed (h : s.openNamed t = some (s', r)) :
  s'.frames.getLast? = s.frames.getLast?
  := by
  unfold openNamed at h
  split at h
  · split at h
    · contradiction
    · obtain ⟨rfl, -⟩ := Prod.mk.inj (Option.some.inj h)
      rfl
  · contradiction

theorem getLast?_frames_of_openFlags (h : s.openFlags t = some (s', r)) :
  s'.frames.getLast? = s.frames.getLast?
  := by
  unfold openFlags at h
  split at h
  · obtain ⟨rfl, -⟩ := Prod.mk.inj (Option.some.inj h)
    rfl
  · obtain ⟨rfl, -⟩ := Prod.mk.inj (Option.some.inj h)
    rfl
  · contradiction

theorem getLast?_frames_of_openParenthesis (h : s.openParenthesis t = some (s', r)) :
  s'.frames.getLast? = s.frames.getLast?
  := by
  unfold openParenthesis at h
  split at h
  · contradiction
  · contradiction
  · contradiction
  · contradiction
  · exact getLast?_frames_of_openNamed h
  · exact getLast?_frames_of_openNamed h
  · exact getLast?_frames_of_openFlags h
  · obtain ⟨rfl, -⟩ := Prod.mk.inj (Option.some.inj h)
    rfl

theorem getLast?_frames_of_repeatLast {least : Nat} {most : Option Nat}
    (h : s.repeatLast least most = some s') :
  s'.frames.getLast? = s.frames.getLast?
  := by
  unfold repeatLast at h
  split at h
  · obtain rfl := Option.some.inj h
    rfl
  · contradiction

theorem getLast?_frames_of_closeGroup (h : s.closeGroup = some s') :
  s'.frames.getLast? = s.frames.getLast?
  := by
  unfold closeGroup at h
  split at h
  · contradiction
  · next parent outer houter =>
    obtain rfl := Option.some.inj h
    unfold frames
    rw [houter]
    rfl

/-- No step changes what the outermost group was opened with. -/
theorem getLast?_frames_of_step (h : s.step t = some (s', r)) :
  s'.frames.getLast? = s.frames.getLast?
  := by
  cases t with
  | nil => contradiction
  | cons c rest =>
    simp only [step] at h
    split at h
    · exact getLast?_frames_of_openParenthesis h
    · exact getLast?_frames_of_closeGroup (map_pair_eq_some_iff.mp h).1
    · obtain ⟨rfl, -⟩ := Prod.mk.inj (Option.some.inj h)
      rfl
    · obtain ⟨⟨i, r'⟩, -, heq⟩ := Option.map_eq_some_iff.mp h
      obtain ⟨rfl, -⟩ := Prod.mk.inj heq
      rfl
    · exact getLast?_frames_of_repeatLast (map_pair_eq_some_iff.mp h).1
    · exact getLast?_frames_of_repeatLast (map_pair_eq_some_iff.mp h).1
    · exact getLast?_frames_of_repeatLast (map_pair_eq_some_iff.mp h).1
    · split at h
      · exact getLast?_frames_of_repeatLast (map_pair_eq_some_iff.mp h).1
      · contradiction
    · obtain ⟨⟨a, r'⟩, -, heq⟩ := Option.map_eq_some_iff.mp h
      obtain ⟨rfl, -⟩ := Prod.mk.inj heq
      cases a <;> rfl
    · obtain ⟨set, -, heq⟩ := Option.map_eq_some_iff.mp h
      obtain ⟨rfl, -⟩ := Prod.mk.inj heq
      rfl
    · obtain ⟨rfl, -⟩ := Prod.mk.inj (Option.some.inj h)
      rfl
    · obtain ⟨rfl, -⟩ := Prod.mk.inj (Option.some.inj h)
      rfl
    · obtain ⟨rfl, -⟩ := Prod.mk.inj (Option.some.inj h)
      rfl

theorem Reads.getLast?_frames (h : Reads s t s' t') :
  s'.frames.getLast? = s.frames.getLast?
  := by
  induction h with
  | refl s t => rfl
  | step hstep _ ih => rw [ih, getLast?_frames_of_step hstep]

end DirectiveLint.Pattern.State
