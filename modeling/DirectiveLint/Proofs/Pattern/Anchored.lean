import DirectiveLint.Pattern
import DirectiveLint.Proofs.Pattern.Matching
import DirectiveLint.Proofs.Pattern.Reading

/-!
# Patterns between anchors

A pattern is read between anchors, in a group that its text can close.  If the closing
parenthesis behind the pattern closes the group, then the pattern can be read alone, and
between the anchors it is found in the texts that it matches as a whole.  Otherwise a
parenthesis in the pattern does, and the pattern cannot be read alone
(`read?_anchored_cases`).
-/

namespace DirectiveLint.Pattern

variable {t u r w : Text} {s s' : State} {part : Part} {regex : Regex}

/-! ### Patterns that are read alone -/

/-- What a text is read as from a state on, if all groups are closed at its end. -/
def State.finish? (fuel : Nat) (s : State) (t : Text) : Option Part :=
  match run fuel s t with
  | some s => if s.outer.isEmpty then some s.group.whole else none
  | none => none

/-- What a text is as a pattern, without regard to depth and to the size of automata. -/
def part? (t : Text) : Option Part := State.start.finish? (t.length + 1) t

theorem State.finish?_eq_some_iff {fuel : Nat} (hfuel : t.length < fuel) :
  s.finish? fuel t = some part
    ↔ ∃ s' r, Reads s t s' r ∧ s'.mode.skip r = [] ∧ s'.outer = [] ∧ s'.group.whole = part
  := by
  unfold finish?
  constructor
  · intro h
    split at h
    · next s' hs' =>
      obtain ⟨r, hreads, hend⟩ := (run_eq_some_iff hfuel).mp hs'
      split at h
      · next houter =>
        exact ⟨s', r, hreads, hend, List.isEmpty_iff.mp houter, Option.some.inj h⟩
      · contradiction
    · contradiction
  · rintro ⟨s', r, hreads, hend, houter, rfl⟩
    rw [(run_eq_some_iff hfuel).mpr ⟨r, hreads, hend⟩]
    simp [houter]

theorem part?_eq_some_iff :
  part? t = some part ↔ ∃ s r, State.Reads .start t s r ∧ s.mode.skip r = []
    ∧ s.outer = [] ∧ s.group.whole = part
  := State.finish?_eq_some_iff (Nat.lt_succ_self t.length)

/-- What can be read is a text that is a pattern, of bearable depth and with automata of
bearable size. -/
theorem read?_eq_some_iff :
  read? t = some regex ↔ ∃ part, part? t = some part ∧ part.depth ≤ depthLimit
    ∧ part.shape.fits = true ∧ part.regex = regex
  := by
  unfold read? part? State.finish?
  cases State.run (t.length + 1) .start t with
  | none => simp
  | some s => cases s.outer <;> simp [and_assoc]

/-- A text that is read up to a parenthesis that closes nothing is not a pattern. -/
theorem part?_eq_none (h : State.Reads .start t s r) (hskip : s.mode.skip r = ')' :: u)
    (houter : s.outer = []) :
  part? t = none
  := by
  rw [Option.eq_none_iff_forall_ne_some]
  intro part hpart
  obtain ⟨s', r', h', hend, -, -⟩ := part?_eq_some_iff.mp hpart
  have hstuck : s.step (s.mode.skip r) = none := by
    rw [hskip]
    change s.closeGroup.map (·, u) = none
    rw [State.closeGroup, houter]
    rfl
  have hstuck' : s'.step (s'.mode.skip r') = none := by
    rw [hend]
    rfl
  obtain ⟨rfl, rfl⟩ := h.unique h' hstuck hstuck'
  rw [hskip] at hend
  contradiction

/-- What is read before a closing parenthesis with no group open is a pattern. -/
theorem part?_of_reads (h : State.Reads .start (t ++ ')' :: u) s (r ++ ')' :: u))
    (hskip : s.mode.skip r = []) (houter : s.outer = []) :
  part? t = some s.group.whole
  := by
  have hreads : State.Reads .start t s r := by
    apply h.of_append
    rw [hskip]
    nofun
  exact part?_eq_some_iff.mpr ⟨s, r, hreads, hskip, houter, rfl⟩

/-! ### Between the anchors -/

/-- What stands around the group that a pattern is put in: the anchor for the start. -/
def Group.anchoredBase : Group := State.start.group.push (.ofLook .start)

/-- The anchor and the parenthesis before a pattern open a group around it. -/
theorem part?_anchored (t : Text) :
  part? (anchored t)
    = (State.start.inside .anchoredBase).finish? (t.length + 5) (t ++ [')', '$'])
  := by
  have hwritten : anchored t = ['^', '(', '?', ':'] ++ t ++ [')', '$'] := rfl
  have hfuel : (anchored t).length + 1 = t.length + 5 + 2 := by simp [hwritten]
  rw [part?, hfuel]
  rfl

/-- The parenthesis that closes the group stands behind the pattern or in it. -/
theorem append_closing_cases (h : t ++ [')', '$'] = w ++ ')' :: u) :
  t = w ∧ u = ['$'] ∨ ∃ rest, t = w ++ ')' :: rest ∧ u = rest ++ [')', '$']
  := by
  rcases List.append_eq_append_iff.mp h with ⟨v, rfl, hv⟩ | ⟨v, rfl, hv⟩
  · cases v with
    | nil => exact .inl ⟨(List.append_nil t).symm, (List.cons.inj hv).2.symm⟩
    | cons c v =>
      have hv := (List.cons.inj hv).2
      rcases v with _ | ⟨c, _ | ⟨c, v⟩⟩ <;> simp at hv
  · cases v with
    | nil => exact .inl ⟨List.append_nil w, (List.cons.inj hv).2⟩
    | cons c v =>
      obtain ⟨rfl, rfl⟩ := List.cons.inj hv
      exact .inr ⟨v, rfl, rfl⟩

/-- A group that is closed with no other group open has the mode and the kind of the start. -/
theorem State.closedInto_of_reads {base : Group} (h : Reads .start t s r) (houter : s.outer = []) :
  s.closedInto base
    = ⟨{}, base.push (s.group.whole.inGroup false), [], s.names⟩
  := by
  have hframes := h.getLast?_frames
  rw [frames, houter] at hframes
  obtain ⟨hmode, hmarks⟩ := Prod.mk.inj (Option.some.inj hframes)
  unfold closedInto
  rw [hmode, hmarks]
  rfl

/-- Behind the group only the anchor for the end is read. -/
theorem State.reads_stop_iff {group : Group} {names : List Text} :
  (∃ r, Reads ⟨{}, group, [], names⟩ ['$'] s r ∧ s.mode.skip r = [])
    ↔ s = ⟨{}, group.push (.ofLook .stop), [], names⟩
  := by
  have hrun : run 2 ⟨{}, group, [], names⟩ ['$']
      = some ⟨{}, group.push (.ofLook .stop), [], names⟩ := rfl
  rw [← run_eq_some_iff (Nat.lt_succ_self 1), hrun, Option.some_inj, eq_comm]

/-- A part in a group between anchors. -/
def Part.betweenAnchors (p : Part) : Part :=
  .sequence [.ofLook .start, p.inGroup false, .ofLook .stop]

theorem Part.regex_betweenAnchors (p : Part) :
  p.betweenAnchors.regex = .cat (.look .start) (.cat p.regex (.look .stop))
  := rfl

theorem Part.depth_le_betweenAnchors (p : Part) :
  p.depth ≤ p.betweenAnchors.depth
  := by
  have hdepth : p.betweenAnchors.depth = 1 + max (max (max 0 0) (1 + p.depth)) 0 := rfl
  omega

/-- The closing parenthesis behind a pattern closes the group that it is put in, and then it
can be read alone.  Or a parenthesis in the pattern does, which has no group to close if the
pattern is read alone. -/
theorem part?_anchored_cases {whole : Part} (h : part? (anchored t) = some whole) :
  (∃ part, part? t = some part ∧ whole = part.betweenAnchors)
    ∨ part? t = none ∧ ∃ inner rest, t = inner ++ ')' :: rest ∧ (part? inner).isSome = true
  := by
  have hfuel : (t ++ [')', '$']).length < t.length + 5 := by simp
  rw [part?_anchored, State.finish?_eq_some_iff hfuel] at h
  obtain ⟨s, r, hreads, hend, houter, rfl⟩ := h
  obtain ⟨s₁, t₁, u, hinner, hskip, houter₁, hbehind⟩ := hreads.exists_closes houter
  obtain ⟨r₁, rfl, hr₁⟩ := exists_append_of_skip (r := []) hskip
  obtain ⟨w, hw⟩ := exists_append_of_suffix hinner.suffix
  rw [hw] at hinner
  have hpart := part?_of_reads hinner hr₁ houter₁
  rcases append_closing_cases hw with ⟨rfl, rfl⟩ | ⟨rest, rfl, rfl⟩
  · left
    refine ⟨s₁.group.whole, hpart, ?_⟩
    rw [State.closedInto_of_reads hinner houter₁] at hbehind
    rw [State.reads_stop_iff.mp ⟨r, hbehind, hend⟩]
    rfl
  · right
    refine ⟨?_, w, rest, rfl, Option.isSome_of_eq_some hpart⟩
    have hskip' : s₁.mode.skip (r₁ ++ ')' :: rest) = ')' :: rest := by
      apply s₁.mode.skip_of_append (u := ['$'])
      simpa using hskip
    -- up to the parenthesis, the pattern is read alone as it is between the anchors
    have halone : State.Reads .start (w ++ ')' :: rest) s₁ (r₁ ++ ')' :: rest) := by
      apply State.Reads.of_append (u := ['$'])
      · simpa using hinner
      · rw [hskip']
        nofun
    apply part?_eq_none halone hskip' houter₁

/-- A pattern that is read between anchors can be read alone and is matched from the start
to the end, or it cannot be read alone and a part of it can, behind which a parenthesis closes
the group between the anchors. -/
theorem read?_anchored_cases (h : read? (anchored t) = some regex) :
  (∃ part, part? t = some part ∧ part.depth ≤ depthLimit
      ∧ regex = .cat (.look .start) (.cat part.regex (.look .stop)))
    ∨ part? t = none ∧ ∃ inner rest, t = inner ++ ')' :: rest ∧ (part? inner).isSome = true
  := by
  obtain ⟨whole, hwhole, hdepth, -, rfl⟩ := read?_eq_some_iff.mp h
  rcases part?_anchored_cases hwhole with ⟨part, hpart, rfl⟩ | hclosed
  · left
    refine ⟨part, hpart, ?_, part.regex_betweenAnchors⟩
    apply Nat.le_trans part.depth_le_betweenAnchors hdepth
  · exact .inr hclosed

end DirectiveLint.Pattern
