import Mathlib.Data.List.Forall2

/-!
# Steps that can fail

Steps one after the other succeed if each of them does on the result of those before it, and
fail as the first of them that fails (`foldlM_eq_error_iff`, `mapM_eq_error_iff`).  Items are
related to their results one by one.
-/

namespace DirectiveLint

variable {ε α β σ : Type} {e : ε}

/-- Two steps succeed if the first does and the second does on its result. -/
theorem bind_eq_ok_iff {first : Except ε α} {second : α → Except ε β} {b : β} :
  (first >>= second) = .ok b ↔ ∃ a, first = .ok a ∧ second a = .ok b
  := by
  cases first <;> simp [bind, Except.bind]

/-- Two steps fail if the first does or the second does on its result. -/
theorem bind_eq_error_iff {first : Except ε α} {second : α → Except ε β} :
  (first >>= second) = .error e ↔ first = .error e ∨ ∃ a, first = .ok a ∧ second a = .error e
  := by
  cases first <;> simp [bind, Except.bind]

theorem foldlM_eq_error_iff {step : σ → α → Except ε σ} {s : σ} {as : List α} :
  as.foldlM step s = .error e
    ↔ ∃ before a after t, as = before ++ a :: after ∧ before.foldlM step s = .ok t
      ∧ step t a = .error e
  := by
  constructor
  · intro h
    induction as generalizing s with
    | nil => contradiction
    | cons a as ih =>
      rw [List.foldlM_cons] at h
      rcases bind_eq_error_iff.mp h with ha | ⟨t, ha, has⟩
      · exact ⟨[], a, as, s, rfl, rfl, ha⟩
      · obtain ⟨before, b, after, u, rfl, hbefore, hb⟩ := ih has
        refine ⟨a :: before, b, after, u, rfl, ?_, hb⟩
        rw [List.foldlM_cons]
        apply bind_eq_ok_iff.mpr ⟨t, ha, hbefore⟩
  · rintro ⟨before, a, after, t, rfl, hbefore, ha⟩
    rw [List.foldlM_append]
    apply bind_eq_error_iff.mpr (.inr ⟨t, hbefore, ?_⟩)
    rw [List.foldlM_cons]
    apply bind_eq_error_iff.mpr (.inl ha)

/-- If it does not depend on what was done before whether a step succeeds, all steps succeed
if each of them does. -/
theorem isOk_foldlM_iff {step : σ → α → Except ε σ} {P : α → Prop}
    (h : ∀ s a, (∃ t, step s a = .ok t) ↔ P a) {s : σ} {as : List α} :
  (∃ t, as.foldlM step s = .ok t) ↔ ∀ a ∈ as, P a
  := by
  induction as generalizing s with
  | nil =>
    apply iff_of_true ⟨s, rfl⟩
    intro a ha
    contradiction
  | cons a as ih =>
    rw [List.foldlM_cons, List.forall_mem_cons, ← h s a]
    constructor
    · rintro ⟨u, hu⟩
      obtain ⟨t, ht, hmore⟩ := bind_eq_ok_iff.mp hu
      exact ⟨⟨t, ht⟩, ih.mp ⟨u, hmore⟩⟩
    · rintro ⟨⟨t, ht⟩, hmore⟩
      obtain ⟨u, hu⟩ := ih.mpr hmore
      exact ⟨u, bind_eq_ok_iff.mpr ⟨t, ht, hu⟩⟩

theorem mapM_cons_eq_ok_iff {f : α → Except ε β} {a : α} {as : List α} {bs : List β} :
  (a :: as).mapM f = .ok bs ↔ ∃ b cs, bs = b :: cs ∧ f a = .ok b ∧ as.mapM f = .ok cs
  := by
  rw [List.mapM_cons, bind_eq_ok_iff]
  simp only [bind_eq_ok_iff]
  constructor
  · rintro ⟨b, hb, cs, hcs, h⟩
    obtain rfl := Except.ok.inj h
    exact ⟨b, cs, rfl, hb, hcs⟩
  · rintro ⟨b, cs, rfl, hb, hcs⟩
    exact ⟨b, hb, cs, hcs, rfl⟩

theorem mapM_eq_ok_iff {f : α → Except ε β} {as : List α} {bs : List β} :
  as.mapM f = .ok bs ↔ bs.map .ok = as.map f
  := by
  induction as generalizing bs with
  | nil =>
    rw [List.map_nil, List.map_eq_nil_iff]
    constructor
    · intro h
      apply (Except.ok.inj h).symm
    · rintro rfl
      rfl
  | cons a as ih =>
    rw [mapM_cons_eq_ok_iff, List.map_cons, List.map_eq_cons_iff]
    constructor
    · rintro ⟨b, cs, rfl, hb, hcs⟩
      exact ⟨b, cs, rfl, hb.symm, ih.mp hcs⟩
    · rintro ⟨b, cs, rfl, hb, hcs⟩
      exact ⟨b, cs, rfl, hb.symm, ih.mpr hcs⟩

theorem isOk_mapM_iff {f : α → Except ε β} {as : List α} :
  (∃ bs, as.mapM f = .ok bs) ↔ ∀ a ∈ as, ∃ b, f a = .ok b
  := by
  induction as with
  | nil =>
    apply iff_of_true ⟨[], rfl⟩
    intro a ha
    contradiction
  | cons a as ih =>
    rw [List.forall_mem_cons, ← ih]
    simp only [mapM_cons_eq_ok_iff]
    constructor
    · rintro ⟨bs, b, cs, -, hb, hcs⟩
      exact ⟨⟨b, hb⟩, cs, hcs⟩
    · rintro ⟨⟨b, hb⟩, cs, hcs⟩
      exact ⟨b :: cs, b, cs, rfl, hb, hcs⟩

theorem mapM_eq_error_iff {f : α → Except ε β} {as : List α} :
  as.mapM f = .error e
    ↔ ∃ before a after, as = before ++ a :: after ∧ (∀ b ∈ before, ∃ c, f b = .ok c)
      ∧ f a = .error e
  := by
  constructor
  · intro h
    induction as with
    | nil => contradiction
    | cons a as ih =>
      rw [List.mapM_cons] at h
      rcases bind_eq_error_iff.mp h with ha | ⟨b, hb, has⟩
      · refine ⟨[], a, as, rfl, ?_, ha⟩
        intro b hb
        contradiction
      · rcases bind_eq_error_iff.mp has with has | ⟨bs, hbs, hpure⟩
        · obtain ⟨before, a', after, rfl, hbefore, ha'⟩ := ih has
          refine ⟨a :: before, a', after, rfl, ?_, ha'⟩
          rw [List.forall_mem_cons]
          exact ⟨⟨b, hb⟩, hbefore⟩
        · contradiction
  · rintro ⟨before, a, after, rfl, hbefore, ha⟩
    obtain ⟨bs, hbs⟩ := isOk_mapM_iff.mpr hbefore
    rw [List.mapM_append]
    apply bind_eq_error_iff.mpr (.inr ⟨bs, hbs, ?_⟩)
    apply bind_eq_error_iff.mpr (.inl ?_)
    rw [List.mapM_cons]
    apply bind_eq_error_iff.mpr (.inl ha)

/-! ### Lists that are related item by item -/

section Related

variable {R S : α → β → Prop} {as : List α} {bs : List β}

/-- Each item is related to one of the other list. -/
theorem exists_of_mem_forall₂ (h : List.Forall₂ R as bs) {a : α} (ha : a ∈ as) :
  ∃ b ∈ bs, R a b
  := by
  induction h with
  | nil => contradiction
  | @cons a' b as bs hab _ ih =>
    rcases List.mem_cons.mp ha with rfl | ha
    · exact ⟨b, List.mem_cons_self, hab⟩
    · obtain ⟨c, hc, hac⟩ := ih ha
      exact ⟨c, List.mem_cons_of_mem b hc, hac⟩

theorem exists_forall₂ (h : ∀ a ∈ as, ∃ b, R a b) :
  ∃ bs, List.Forall₂ R as bs
  := by
  induction as with
  | nil => exact ⟨[], .nil⟩
  | cons a as ih =>
    obtain ⟨⟨b, hb⟩, hmore⟩ := List.forall_mem_cons.mp h
    obtain ⟨bs, hbs⟩ := ih hmore
    exact ⟨b :: bs, .cons hb hbs⟩

/-- Two relations that agree on the items of two lists relate the same lists. -/
theorem forall₂_congr_of_mem (h : ∀ a ∈ as, ∀ b ∈ bs, R a b ↔ S a b) :
  List.Forall₂ R as bs ↔ List.Forall₂ S as bs
  := by
  rw [List.forall₂_iff_zip, List.forall₂_iff_zip]
  apply and_congr_right'
  constructor
  · intro hR a b hab
    obtain ⟨ha, hb⟩ := List.of_mem_zip hab
    apply (h a ha b hb).mp (hR hab)
  · intro hS a b hab
    obtain ⟨ha, hb⟩ := List.of_mem_zip hab
    apply (h a ha b hb).mpr (hS hab)

end Related

theorem mapM_eq_some_iff {f : α → Option β} {as : List α} {bs : List β} :
  as.mapM f = some bs ↔ List.Forall₂ (fun a b => f a = some b) as bs
  := by
  induction as generalizing bs with
  | nil => simp [eq_comm]
  | cons a as ih =>
    simp only [List.mapM_cons, Option.bind_eq_bind, Option.bind_eq_some_iff, ih,
      List.forall₂_cons_left_iff, Option.pure_def, Option.some.injEq]
    constructor
    · rintro ⟨b, hb, bs, hbs, rfl⟩
      exact ⟨b, bs, hb, hbs, rfl⟩
    · rintro ⟨b, bs, hb, hbs, rfl⟩
      exact ⟨b, hb, bs, hbs, rfl⟩

/-- Every result of steps that all succeed is that of one of them. -/
theorem exists_of_mem_mapM {f : α → Option β} {as : List α} {bs : List β}
    (h : as.mapM f = some bs) {b : β} (hb : b ∈ bs) :
  ∃ a ∈ as, f a = some b
  := exists_of_mem_forall₂ (mapM_eq_some_iff.mp h).flip hb

/-! ### The results of steps on each item -/

section Results

variable {f : α → Except ε β} {as : List α} {bs : List β}

theorem mem_iff_of_mapM (h : as.mapM f = .ok bs) {b : β} :
  b ∈ bs ↔ ∃ a ∈ as, f a = .ok b
  := by
  rw [← List.mem_map, ← mapM_eq_ok_iff.mp h, List.mem_map]
  simp only [Except.ok.injEq, exists_eq_right]

theorem filterMap_of_mapM {γ : Type} {g : β → Option γ} {g' : α → Option γ}
    (hg : ∀ a b, f a = .ok b → g b = g' a) (h : as.mapM f = .ok bs) :
  bs.filterMap g = as.filterMap g'
  := by
  induction as generalizing bs with
  | nil =>
    obtain rfl := Except.ok.inj h
    rfl
  | cons a as ih =>
    obtain ⟨b, cs, rfl, hb, hcs⟩ := mapM_cons_eq_ok_iff.mp h
    rw [List.filterMap_cons, List.filterMap_cons, hg a b hb, ih hcs]

theorem mapM_append_cons_eq_ok_iff {before after : List α} {a : α} :
  (before ++ a :: after).mapM f = .ok bs
    ↔ ∃ cs b ds, bs = cs ++ b :: ds ∧ before.mapM f = .ok cs ∧ f a = .ok b
      ∧ after.mapM f = .ok ds
  := by
  simp only [mapM_eq_ok_iff]
  rw [List.map_append, List.map_cons, List.map_eq_append_iff]
  constructor
  · rintro ⟨cs, rest, rfl, hcs, hrest⟩
    obtain ⟨b, ds, rfl, hb, hds⟩ := List.map_eq_cons_iff.mp hrest
    exact ⟨cs, b, ds, rfl, hcs, hb.symm, hds⟩
  · rintro ⟨cs, b, ds, rfl, hcs, hb, hds⟩
    refine ⟨cs, b :: ds, rfl, hcs, ?_⟩
    rw [List.map_cons, hb, hds]

/-- To part the results somewhere is to part the items there. -/
theorem exists_append_cons_iff_of_mapM (h : as.mapM f = .ok bs) {P : List β → β → Prop} :
  (∃ before b after, bs = before ++ b :: after ∧ P before b)
    ↔ ∃ before a after, as = before ++ a :: after
      ∧ ∃ cs b, before.mapM f = .ok cs ∧ f a = .ok b ∧ P cs b
  := by
  constructor
  · rintro ⟨cs, b, after, rfl, hP⟩
    rw [mapM_eq_ok_iff, eq_comm, List.map_append, List.map_cons] at h
    obtain ⟨before, rest, rfl, hbefore, hrest⟩ := List.map_eq_append_iff.mp h
    obtain ⟨a, after', rfl, ha, -⟩ := List.map_eq_cons_iff.mp hrest
    exact ⟨before, a, after', rfl, cs, b, mapM_eq_ok_iff.mpr hbefore.symm, ha, hP⟩
  · rintro ⟨before, a, after, rfl, cs, b, hcs, hb, hP⟩
    obtain ⟨cs', b', ds, rfl, hcs', hb', -⟩ := mapM_append_cons_eq_ok_iff.mp h
    obtain rfl := Except.ok.inj (hcs.symm.trans hcs')
    obtain rfl := Except.ok.inj (hb.symm.trans hb')
    exact ⟨cs, b, ds, rfl, hP⟩

end Results

end DirectiveLint
