import DirectiveLint.Pattern.Regex
import Mathlib.Tactic.ByContra
import Mathlib.Tactic.Use

/-!
# Matching by sets of positions

What `Regex.reach` computes is what `Regex.Matches` says: it takes some positions to the ends
of the matches that start at them (`Regex.mem_reach_iff`), so an expression is found in a text
exactly if some part of the text is a match (`Regex.foundIn_iff`).  Between the anchors of a
text, that part is the whole text (`Regex.foundIn_anchored_iff`).
-/

namespace DirectiveLint.Pattern

namespace Marks

variable {p q : Marks} {i : Nat}

/-- A position is in a set. -/
def Mem (p : Marks) (i : Nat) : Prop := p[i]? = some true

theorem Mem.lt (h : p.Mem i) :
  i < p.length
  := (List.getElem?_eq_some_iff.mp h).1

theorem isEmpty_iff :
  p.isEmpty = true ↔ ∀ i, ¬ p.Mem i
  := by
  simp only [isEmpty, Bool.not_eq_true', List.any_eq_false, id_eq, Mem, List.mem_iff_getElem?]
  constructor
  · intro h i hi
    apply h true ⟨i, hi⟩ rfl
  · rintro h b ⟨i, hi⟩ rfl
    apply h i hi

theorem any_iff :
  p.any id = true ↔ ∃ i, p.Mem i
  := by
  simp only [List.any_eq_true, id_eq, exists_eq_right, Mem, List.mem_iff_getElem?]

/-- Sets of the same positions both say something of a position, or neither does. -/
theorem getElem?_cases (h : p.length = q.length) (i : Nat) :
  (∃ a b, p[i]? = some a ∧ q[i]? = some b) ∨ p[i]? = none ∧ q[i]? = none
  := by
  by_cases hi : i < p.length
  · left
    exact ⟨_, _, List.getElem?_eq_getElem hi, List.getElem?_eq_getElem (h ▸ hi)⟩
  · right
    have hp := Nat.le_of_not_lt hi
    exact ⟨List.getElem?_eq_none hp, List.getElem?_eq_none (h ▸ hp)⟩

theorem mem_join_iff (h : p.length = q.length) :
  (p.join q).Mem i ↔ p.Mem i ∨ q.Mem i
  := by
  unfold Mem join
  rw [List.getElem?_zipWith]
  obtain ⟨a, b, ha, hb⟩ | ⟨ha, hb⟩ := getElem?_cases h i
  · simp [ha, hb]
  · simp [ha, hb]

theorem mem_without_iff (h : p.length = q.length) :
  (p.without q).Mem i ↔ p.Mem i ∧ ¬ q.Mem i
  := by
  unfold Mem without
  rw [List.getElem?_zipWith]
  obtain ⟨a, b, ha, hb⟩ | ⟨ha, hb⟩ := getElem?_cases h i
  · simp [ha, hb]
  · simp [ha, hb]

@[simp]
theorem length_join :
  (p.join q).length = min p.length q.length
  := List.length_zipWith

@[simp]
theorem length_without :
  (p.without q).length = min p.length q.length
  := List.length_zipWith

/-- All positions are in a set that leaves none out. -/
theorem mem_of_count_eq_zero (h : p.count false = 0) (hi : i < p.length) :
  p.Mem i
  := by
  rw [List.count_eq_zero] at h
  have hmark : p[i] = true := by
    rw [← Bool.not_eq_false]
    intro hfalse
    apply h
    rw [← hfalse]
    apply List.getElem_mem
  rw [Mem, List.getElem?_eq_getElem hi, hmark]

theorem count_join_le :
  ∀ p q : Marks, p.length = q.length → (p.join q).count false ≤ p.count false
  | [], _, _ => Nat.le_refl 0
  | a :: p, b :: q, h => by
    have ih := count_join_le p q (Nat.succ.inj h)
    rw [join, List.zipWith_cons_cons, List.count_cons, List.count_cons]
    cases a <;> cases b <;> simp_all [join]
    omega

/-- A set that is joined with one that has a further position leaves out fewer. -/
theorem count_join_lt :
  ∀ (p q : Marks) (i : Nat), p.length = q.length → q.Mem i → ¬ p.Mem i →
    (p.join q).count false < p.count false
  | [], [], _, _, hq, _ => by contradiction
  | a :: p, b :: q, 0, h, hq, hp => by
    have hle := count_join_le p q (Nat.succ.inj h)
    obtain rfl : b = true := by simpa [Mem] using hq
    obtain rfl : a = false := by simpa [Mem] using hp
    rw [join, List.zipWith_cons_cons, List.count_cons, List.count_cons]
    simp only [join] at hle
    simp
    omega
  | a :: p, b :: q, i + 1, h, hq, hp => by
    have ih := count_join_lt p q i (Nat.succ.inj h) hq hp
    rw [join, List.zipWith_cons_cons, List.count_cons, List.count_cons]
    simp only [join] at ih
    cases a <;> cases b <;> simp <;> omega

end Marks

namespace Regex

variable {t : Text} {r : Regex} {i j : Nat}

/-! ### What matches are -/

theorem matches_empty_iff :
  Matches t empty i j ↔ i = j ∧ i ≤ t.length
  := by
  constructor
  · rintro ⟨h⟩
    exact ⟨rfl, h⟩
  · rintro ⟨rfl, h⟩
    apply Matches.empty h

theorem matches_set_iff {s : CharSet} :
  Matches t (set s) i j ↔ j = i + 1 ∧ ∃ c, t[i]? = some c ∧ s.mem c = true
  := by
  constructor
  · rintro ⟨⟩
    next c hs hc => exact ⟨rfl, c, hc, hs⟩
  · rintro ⟨rfl, c, hc, hs⟩
    apply Matches.set hc hs

theorem matches_look_iff {l : Look} :
  Matches t (look l) i j ↔ j = i ∧ ∃ n, (neighbours t)[i]? = some n ∧ l.holds n.1 n.2 = true
  := by
  constructor
  · rintro ⟨⟩
    next n hl hn => exact ⟨rfl, n, hn, hl⟩
  · rintro ⟨rfl, n, hn, hl⟩
    apply Matches.look hn hl

theorem matches_cat_iff {s : Regex} :
  Matches t (cat r s) i j ↔ ∃ k, Matches t r i k ∧ Matches t s k j
  := by
  constructor
  · rintro ⟨⟩
    next k hr hs => exact ⟨k, hr, hs⟩
  · rintro ⟨k, hr, hs⟩
    apply Matches.cat hr hs

theorem matches_alt_iff {s : Regex} :
  Matches t (alt r s) i j ↔ Matches t r i j ∨ Matches t s i j
  := by
  constructor
  · rintro (_ | _)
    · next h => exact .inl h
    · next h => exact .inr h
  · rintro (h | h)
    · apply Matches.altLeft h
    · apply Matches.altRight h

/-- Some matches in a row, and how many they are. -/
inductive Repeats (t : Text) (r : Regex) : Nat → Nat → Nat → Prop
  | none {i : Nat} : i ≤ t.length → Repeats t r 0 i i
  | more {n i j k : Nat} : Matches t r i j → Repeats t r n j k → Repeats t r (n + 1) i k

theorem repeats_zero_iff :
  Repeats t r 0 i j ↔ i = j ∧ i ≤ t.length
  := by
  constructor
  · rintro ⟨h⟩
    exact ⟨rfl, h⟩
  · rintro ⟨rfl, h⟩
    apply Repeats.none h

theorem repeats_succ_iff {n : Nat} :
  Repeats t r (n + 1) i j ↔ ∃ k, Matches t r i k ∧ Repeats t r n k j
  := by
  constructor
  · rintro ⟨⟩
    next k h hmore => exact ⟨k, h, hmore⟩
  · rintro ⟨k, h, hmore⟩
    apply Repeats.more h hmore

theorem Repeats.of_matches_rep {s : Regex} (h : Matches t s i j) {least : Nat}
    {most : Option Nat} (hs : s = rep r least most) :
  ∃ n, Repeats t r n i j ∧ least ≤ n ∧ ∀ m ∈ most, n ≤ least + (m - least)
  := by
  induction h generalizing least most with
  | empty _ => contradiction
  | set _ _ => contradiction
  | look _ _ => contradiction
  | cat _ _ _ _ => contradiction
  | altLeft _ _ => contradiction
  | altRight _ _ => contradiction
  | repNone hi =>
    obtain ⟨rfl, rfl, rfl⟩ := rep.inj hs
    exact ⟨0, .none hi, Nat.le_refl 0, fun m _ => Nat.zero_le _⟩
  | repLeast h _ _ ih =>
    obtain ⟨rfl, rfl, rfl⟩ := rep.inj hs
    obtain ⟨n, hn, hleast, hmost⟩ := ih rfl
    refine ⟨n + 1, .more h hn, Nat.succ_le_succ hleast, ?_⟩
    intro m hm
    have := hmost (m - 1) (Option.mem_map_of_mem _ hm)
    omega
  | repMore hne h _ _ ih =>
    obtain ⟨rfl, rfl, rfl⟩ := rep.inj hs
    obtain ⟨n, hn, -, hmost⟩ := ih rfl
    refine ⟨n + 1, .more h hn, Nat.zero_le _, ?_⟩
    intro m hm
    have hpos : m ≠ 0 := by
      rintro rfl
      exact hne hm
    have := hmost (m - 1) (Option.mem_map_of_mem _ hm)
    omega

theorem Repeats.matches_rep {n : Nat} (h : Repeats t r n i j) {least : Nat} {most : Option Nat}
    (hleast : least ≤ n) (hmost : ∀ m ∈ most, n ≤ least + (m - least)) :
  Matches t (rep r least most) i j
  := by
  induction h generalizing least most with
  | none hi =>
    obtain rfl := Nat.le_zero.mp hleast
    apply Matches.repNone hi
  | more h _ ih =>
    cases least with
    | zero =>
      have hne : most ≠ some 0 := by
        rintro rfl
        have := hmost 0 rfl
        omega
      apply Matches.repMore hne h
      apply ih (Nat.zero_le _)
      intro m hm
      obtain ⟨m', hm', rfl⟩ := Option.map_eq_some_iff.mp hm
      have := hmost m' hm'
      omega
    | succ least =>
      apply Matches.repLeast h
      apply ih (Nat.le_of_succ_le_succ hleast)
      intro m hm
      obtain ⟨m', hm', rfl⟩ := Option.map_eq_some_iff.mp hm
      have := hmost m' hm'
      omega

/-- A repetition matches some matches in a row, the least number of them or more, up to the
greatest number if there is one. -/
theorem matches_rep_iff {least : Nat} {most : Option Nat} :
  Matches t (rep r least most) i j
    ↔ ∃ n, Repeats t r n i j ∧ least ≤ n ∧ ∀ m ∈ most, n ≤ least + (m - least)
  := by
  constructor
  · intro h
    apply Repeats.of_matches_rep h rfl
  · rintro ⟨n, h, hleast, hmost⟩
    apply h.matches_rep hleast hmost

theorem Matches.le (h : Matches t r i j) :
  i ≤ j ∧ j ≤ t.length
  := by
  induction h with
  | empty hi => exact ⟨Nat.le_refl _, hi⟩
  | set hc _ =>
    have := (List.getElem?_eq_some_iff.mp hc).1
    omega
  | look hn _ =>
    have := (List.getElem?_eq_some_iff.mp hn).1
    simp only [neighbours, List.length_zip, List.length_cons, List.length_map,
      List.length_append, List.length_nil] at this
    omega
  | cat _ _ ihr ihs => omega
  | altLeft _ ih => exact ih
  | altRight _ ih => exact ih
  | repNone hi => exact ⟨Nat.le_refl _, hi⟩
  | repLeast _ _ ihr ihs => omega
  | repMore _ _ _ ihr ihs => omega

/-! ### Steps between sets -/

/-- A step takes a set of positions to the ends of the matches that start in it. -/
structure Steps (t : Text) (r : Regex) (step : Marks → Marks) : Prop where
  /-- The result is a set of positions of the text. -/
  length : ∀ p : Marks, p.length = t.length + 1 → (step p).length = t.length + 1
  /-- The result has the ends of the matches. -/
  mem_iff : ∀ p : Marks, p.length = t.length + 1 →
    ∀ j, (step p).Mem j ↔ ∃ i, p.Mem i ∧ Matches t r i j

variable {step : Marks → Marks} {p seen fresh : Marks}

/-- The positions that some matches in a row lead to from a set. -/
def Ends (t : Text) (r : Regex) (p : Marks) (n j : Nat) : Prop :=
  ∃ i, p.Mem i ∧ Repeats t r n i j

theorem ends_zero_iff (hp : p.length = t.length + 1) :
  Ends t r p 0 j ↔ p.Mem j
  := by
  constructor
  · rintro ⟨i, hi, h⟩
    obtain ⟨rfl, -⟩ := repeats_zero_iff.mp h
    apply hi
  · intro hj
    have := hj.lt
    exact ⟨j, hj, .none (by omega)⟩

theorem Steps.ends_succ_iff (h : Steps t r step) (hp : p.length = t.length + 1) {n : Nat} :
  Ends t r p (n + 1) j ↔ Ends t r (step p) n j
  := by
  constructor
  · rintro ⟨i, hi, hij⟩
    obtain ⟨k, hik, hkj⟩ := repeats_succ_iff.mp hij
    exact ⟨k, (h.mem_iff p hp k).mpr ⟨i, hi, hik⟩, hkj⟩
  · rintro ⟨k, hk, hkj⟩
    obtain ⟨i, hi, hik⟩ := (h.mem_iff p hp k).mp hk
    exact ⟨i, hi, .more hik hkj⟩

theorem not_ends_of_isEmpty (h : p.isEmpty = true) {n : Nat} :
  ¬ Ends t r p n j
  := by
  rintro ⟨i, hi, -⟩
  apply Marks.isEmpty_iff.mp h i hi

theorem Steps.length_iterate (h : Steps t r step) (n : Nat) (hp : p.length = t.length + 1) :
  (Marks.iterate step n p).length = t.length + 1
  := by
  induction n generalizing p with
  | zero => apply hp
  | succ n ih =>
    unfold Marks.iterate
    split
    · apply hp
    · apply ih (h.length p hp)

theorem Steps.length_within (h : Steps t r step) (n : Nat) (hp : p.length = t.length + 1) :
  (Marks.within step n p).length = t.length + 1
  := by
  induction n generalizing p with
  | zero => apply hp
  | succ n ih =>
    unfold Marks.within
    split
    · apply hp
    · rw [Marks.length_join, hp, ih (h.length p hp), Nat.min_self]

theorem Steps.mem_within_iff (h : Steps t r step) {n : Nat} (hp : p.length = t.length + 1) :
  (Marks.within step n p).Mem j ↔ ∃ m, m ≤ n ∧ Ends t r p m j
  := by
  induction n generalizing p with
  | zero =>
    rw [Marks.within, ← ends_zero_iff hp]
    constructor
    · intro hj
      exact ⟨0, Nat.le_refl 0, hj⟩
    · rintro ⟨m, hm, hj⟩
      obtain rfl := Nat.le_zero.mp hm
      apply hj
  | succ n ih =>
    unfold Marks.within
    split
    · next hempty =>
      apply iff_of_false (Marks.isEmpty_iff.mp hempty j)
      rintro ⟨m, -, hj⟩
      apply not_ends_of_isEmpty hempty hj
    · have hlength := h.length_within n (h.length p hp)
      rw [Marks.mem_join_iff (hp.trans hlength.symm), ih (h.length p hp), ← ends_zero_iff hp]
      constructor
      · rintro (hj | ⟨m, hm, hj⟩)
        · exact ⟨0, Nat.zero_le _, hj⟩
        · exact ⟨m + 1, Nat.succ_le_succ hm, (h.ends_succ_iff hp).mpr hj⟩
      · rintro ⟨m, hm, hj⟩
        cases m with
        | zero => exact .inl hj
        | succ m => exact .inr ⟨m, Nat.le_of_succ_le_succ hm, (h.ends_succ_iff hp).mp hj⟩

/-- What can still be missing while the steps from a set are followed. -/
structure Followed (t : Text) (r : Regex) (seen fresh : Marks) : Prop where
  /-- The set holds positions of the text. -/
  length_seen : seen.length = t.length + 1
  /-- What was not yet stepped from holds positions of the text. -/
  length_fresh : fresh.length = t.length + 1
  /-- What was not yet stepped from has been reached. -/
  mem : ∀ i, fresh.Mem i → seen.Mem i
  /-- The steps from all other positions stay in the set. -/
  closed : ∀ i j, seen.Mem i → ¬ fresh.Mem i → Matches t r i j → seen.Mem j

theorem Followed.next (hf : Followed t r seen fresh) (h : Steps t r step) :
  Followed t r (seen.join ((step fresh).without seen)) ((step fresh).without seen)
  := by
  have hstep := h.length fresh hf.length_fresh
  have hnext : ((step fresh).without seen).length = t.length + 1 := by
    rw [Marks.length_without, hstep, hf.length_seen, Nat.min_self]
  have hmem : ∀ i, (seen.join ((step fresh).without seen)).Mem i
      ↔ seen.Mem i ∨ ((step fresh).without seen).Mem i :=
    fun i => Marks.mem_join_iff (hf.length_seen.trans hnext.symm)
  refine ⟨?_, hnext, fun i hi => (hmem i).mpr (.inr hi), ?_⟩
  · rw [Marks.length_join, hf.length_seen, hnext, Nat.min_self]
  · intro i j hi hnot hij
    have hseen := ((hmem i).mp hi).resolve_right hnot
    rw [hmem]
    by_cases hj : seen.Mem j
    · exact .inl hj
    · -- the step can only leave the set from where it was not yet taken
      have hfresh : fresh.Mem i := by
        by_contra hfresh
        apply hj (hf.closed i j hseen hfresh hij)
      right
      rw [Marks.mem_without_iff (hstep.trans hf.length_seen.symm),
        h.mem_iff fresh hf.length_fresh]
      exact ⟨⟨i, hfresh, hij⟩, hj⟩

/-- All steps from a set stay in it if none of them leads to a further position. -/
theorem Followed.mem_of_repeats (hf : Followed t r seen fresh) (h : Steps t r step)
    (hnext : ((step fresh).without seen).isEmpty = true) {n : Nat} (hij : Repeats t r n i j)
    (hi : seen.Mem i) :
  seen.Mem j
  := by
  have hlength := (h.length fresh hf.length_fresh).trans hf.length_seen.symm
  induction hij with
  | none _ => apply hi
  | @more n i k j hik _ ih =>
    apply ih
    by_cases hfresh : fresh.Mem i
    · by_contra hk
      have hleft := Marks.isEmpty_iff.mp hnext k
      rw [Marks.mem_without_iff hlength, h.mem_iff fresh hf.length_fresh] at hleft
      exact hleft ⟨⟨i, hfresh, hik⟩, hk⟩
    · apply hf.closed i k hi hfresh hik

theorem Steps.length_closure (h : Steps t r step) {n : Nat} (hf : Followed t r seen fresh) :
  (Marks.closure step n seen fresh).length = t.length + 1
  := by
  induction n generalizing seen fresh with
  | zero => apply hf.length_seen
  | succ n ih =>
    unfold Marks.closure
    dsimp only
    split
    · apply hf.length_seen
    · apply ih (hf.next h)

/-- As many rounds as positions are missing reach all that steps can reach. -/
theorem Steps.mem_closure_iff (h : Steps t r step) {n : Nat} (hf : Followed t r seen fresh)
    (hn : seen.count false ≤ n) :
  (Marks.closure step n seen fresh).Mem j ↔ ∃ m, Ends t r seen m j
  := by
  induction n generalizing seen fresh with
  | zero =>
    constructor
    · intro hj
      exact ⟨0, (ends_zero_iff hf.length_seen).mpr hj⟩
    · rintro ⟨m, i, -, hij⟩
      apply Marks.mem_of_count_eq_zero (Nat.le_zero.mp hn)
      have hj : j ≤ t.length := by
        clear hn
        induction hij with
        | none hi => apply hi
        | more _ _ ih => apply ih
      rw [hf.length_seen]
      omega
  | succ n ih =>
    unfold Marks.closure
    dsimp only
    split
    · next hnext =>
      constructor
      · intro hj
        exact ⟨0, (ends_zero_iff hf.length_seen).mpr hj⟩
      · rintro ⟨m, i, hi, hij⟩
        apply hf.mem_of_repeats h hnext hij hi
    · next hnext =>
      have hstep := h.length fresh hf.length_fresh
      have hlength : seen.length = ((step fresh).without seen).length := by
        rw [Marks.length_without, hstep, hf.length_seen, Nat.min_self]
      have hcount : (seen.join ((step fresh).without seen)).count false ≤ n := by
        rw [Marks.isEmpty_iff, not_forall] at hnext
        obtain ⟨k, hk⟩ := hnext
        rw [not_not] at hk
        have hfurther := (Marks.mem_without_iff (hstep.trans hf.length_seen.symm)).mp hk
        have := Marks.count_join_lt seen _ k hlength hk hfurther.2
        omega
      rw [ih (hf.next h) hcount]
      constructor
      · rintro ⟨m, i, hi, hij⟩
        rcases (Marks.mem_join_iff hlength).mp hi with hseen | hfurther
        · exact ⟨m, i, hseen, hij⟩
        · rw [Marks.mem_without_iff (hstep.trans hf.length_seen.symm),
            h.mem_iff fresh hf.length_fresh] at hfurther
          obtain ⟨⟨k, hk, hki⟩, -⟩ := hfurther
          exact ⟨m + 1, k, hf.mem k hk, .more hki hij⟩
      · rintro ⟨m, i, hi, hij⟩
        exact ⟨m, i, (Marks.mem_join_iff hlength).mpr (.inl hi), hij⟩

/-! ### Expressions -/

@[simp]
theorem length_neighbours :
  (neighbours t).length = t.length + 1
  := by simp [neighbours]

theorem steps_empty :
  Steps t empty (reach t empty)
  where
  length p hp := hp
  mem_iff p hp j := by
    simp only [matches_empty_iff]
    constructor
    · intro hj
      have hlt : j < p.length := hj.lt
      exact ⟨j, hj, rfl, by omega⟩
    · rintro ⟨i, hi, rfl, -⟩
      apply hi

theorem steps_set (s : CharSet) :
  Steps t (set s) (reach t (set s))
  where
  length p hp := by
    simp only [reach, List.length_cons, List.length_zipWith, hp]
    omega
  mem_iff p hp j := by
    simp only [matches_set_iff, reach, Marks.Mem]
    cases j with
    | zero => simp
    | succ j =>
      rw [List.getElem?_cons_succ, List.getElem?_zipWith]
      constructor
      · intro hj
        split at hj
        · next m c hm hc =>
          simp only [Option.some.injEq, Bool.and_eq_true] at hj
          exact ⟨j, by rw [hm, hj.1], rfl, c, hc, hj.2⟩
        · contradiction
      · rintro ⟨i, hi, hij, c, hc, hs⟩
        obtain rfl := Nat.succ.inj hij
        rw [hi, hc]
        simp [hs]

theorem steps_look (l : Look) :
  Steps t (look l) (reach t (look l))
  where
  length p hp := by
    simp only [reach, List.length_zipWith, hp, length_neighbours, Nat.min_self]
  mem_iff p hp j := by
    simp only [matches_look_iff, reach, Marks.Mem, List.getElem?_zipWith]
    constructor
    · intro hj
      split at hj
      · next m n hm hn =>
        simp only [Option.some.injEq, Bool.and_eq_true] at hj
        exact ⟨j, by rw [hm, hj.1], rfl, n, hn, hj.2⟩
      · contradiction
    · rintro ⟨i, hi, rfl, n, hn, hl⟩
      rw [hi, hn]
      simp [hl]

section Compound

variable {s : Regex}

theorem steps_cat (hr : Steps t r (reach t r)) (hs : Steps t s (reach t s)) :
  Steps t (cat r s) (reach t (cat r s))
  where
  length p hp := hs.length _ (hr.length p hp)
  mem_iff p hp j := by
    simp only [reach, hs.mem_iff _ (hr.length p hp), hr.mem_iff p hp, matches_cat_iff]
    constructor
    · rintro ⟨k, ⟨i, hi, hik⟩, hkj⟩
      exact ⟨i, hi, k, hik, hkj⟩
    · rintro ⟨i, hi, k, hik, hkj⟩
      exact ⟨k, ⟨i, hi, hik⟩, hkj⟩

theorem steps_alt (hr : Steps t r (reach t r)) (hs : Steps t s (reach t s)) :
  Steps t (alt r s) (reach t (alt r s))
  where
  length p hp := by
    rw [reach, Marks.length_join, hr.length p hp, hs.length p hp, Nat.min_self]
  mem_iff p hp j := by
    rw [reach, Marks.mem_join_iff ((hr.length p hp).trans (hs.length p hp).symm),
      hr.mem_iff p hp, hs.mem_iff p hp]
    simp only [matches_alt_iff, and_or_left, exists_or]

theorem followed_self (hp : p.length = t.length + 1) :
  Followed t r p p
  := ⟨hp, hp, fun _ hi => hi, fun _ _ hi hnot _ => absurd hi hnot⟩

/-- The least number of matches and some further ones in a row. -/
theorem exists_ends_add_iff (h : Steps t r step) {least : Nat} {P : Nat → Prop}
    (hp : p.length = t.length + 1) :
  (∃ n, P n ∧ Ends t r (Marks.iterate step least p) n j)
    ↔ ∃ n, least ≤ n ∧ P (n - least) ∧ Ends t r p n j
  := by
  have hadd : ∀ n, Ends t r (Marks.iterate step least p) n j ↔ Ends t r p (least + n) j := by
    intro n
    induction least generalizing p with
    | zero => rw [Marks.iterate, Nat.zero_add]
    | succ least ih =>
      rw [Nat.add_right_comm, h.ends_succ_iff hp]
      unfold Marks.iterate
      split
      · next hempty =>
        have hstep : (step p).isEmpty = true := by
          rw [Marks.isEmpty_iff]
          intro k hk
          obtain ⟨i, hi, -⟩ := (h.mem_iff p hp k).mp hk
          apply Marks.isEmpty_iff.mp hempty i hi
        exact iff_of_false (not_ends_of_isEmpty hempty) (not_ends_of_isEmpty hstep)
      · apply ih (h.length p hp)
  constructor
  · rintro ⟨n, hn, hj⟩
    refine ⟨least + n, Nat.le_add_right _ _, ?_, (hadd n).mp hj⟩
    rw [Nat.add_sub_cancel_left]
    apply hn
  · rintro ⟨n, hle, hn, hj⟩
    refine ⟨n - least, hn, (hadd _).mpr ?_⟩
    rw [Nat.add_sub_cancel' hle]
    apply hj

theorem steps_rep (h : Steps t r (reach t r)) (least : Nat) (most : Option Nat) :
  Steps t (rep r least most) (reach t (rep r least most))
  where
  length p hp := by
    have hleast := h.length_iterate least hp
    cases most with
    | none => apply h.length_closure (followed_self hleast)
    | some most => apply h.length_within _ hleast
  mem_iff p hp j := by
    have hleast := h.length_iterate least hp
    have hends : (reach t (rep r least most) p).Mem j
        ↔ ∃ n, least ≤ n ∧ (∀ m ∈ most, n - least ≤ m - least) ∧ Ends t r p n j := by
      cases most with
      | none =>
        have hcount : (Marks.iterate (reach t r) least p).count false ≤ t.length + 1 := by
          rw [← hleast]
          apply List.count_le_length
        rw [reach, h.mem_closure_iff (followed_self hleast) hcount]
        simpa using exists_ends_add_iff h (P := fun _ => True) hp
      | some most =>
        rw [reach, h.mem_within_iff hleast]
        simpa using exists_ends_add_iff h (P := (· ≤ most - least)) hp
    rw [hends]
    simp only [matches_rep_iff]
    constructor
    · rintro ⟨n, hn, hmost, i, hi, hij⟩
      refine ⟨i, hi, n, hij, hn, ?_⟩
      intro m hm
      have := hmost m hm
      omega
    · rintro ⟨i, hi, n, hij, hn, hmost⟩
      refine ⟨n, hn, ?_, i, hi, hij⟩
      intro m hm
      have := hmost m hm
      omega

end Compound

/-- An expression takes a set of positions to the ends of the matches that start in it. -/
theorem steps_reach (t : Text) (r : Regex) :
  Steps t r (reach t r)
  := by
  induction r with
  | empty => apply steps_empty
  | set s => apply steps_set
  | look l => apply steps_look
  | cat r s ihr ihs => apply steps_cat ihr ihs
  | alt r s ihr ihs => apply steps_alt ihr ihs
  | rep r least most ih => apply steps_rep ih

/-- An expression is found in a text exactly if some part of the text is a match. -/
theorem foundIn_iff :
  r.foundIn t = true ↔ ∃ i j, Matches t r i j
  := by
  have hall : (List.replicate (t.length + 1) true).length = t.length + 1 := List.length_replicate
  unfold foundIn
  rw [Marks.any_iff]
  simp only [(steps_reach t r).mem_iff _ hall]
  constructor
  · rintro ⟨j, i, -, hij⟩
    exact ⟨i, j, hij⟩
  · rintro ⟨i, j, hij⟩
    have hle := hij.le
    refine ⟨j, i, ?_, hij⟩
    rw [Marks.Mem, List.getElem?_replicate, if_pos (by omega)]

/-! ### Whole texts -/

theorem matches_start_iff :
  Matches t (look .start) i j ↔ i = 0 ∧ j = 0
  := by
  rw [matches_look_iff]
  constructor
  · rintro ⟨rfl, n, hn, hstart⟩
    cases j with
    | zero => exact ⟨rfl, rfl⟩
    | succ j =>
      obtain ⟨c, behind, hc, -, rfl⟩ : ∃ c behind, t[j]? = some c
          ∧ (t.map some ++ [none])[j + 1]? = some behind ∧ n = (some c, behind) := by
        simp only [neighbours, List.getElem?_zip_eq_some, List.getElem?_cons_succ,
          List.getElem?_map, Option.map_eq_some_iff] at hn
        obtain ⟨⟨c, hc, hcn⟩, hbehind⟩ := hn
        exact ⟨c, n.2, hc, hbehind, by rw [hcn]⟩
      contradiction
  · rintro ⟨rfl, rfl⟩
    refine ⟨rfl, (none, t.head?), ?_, rfl⟩
    cases t <;> rfl

theorem matches_stop_iff :
  Matches t (look .stop) i j ↔ i = t.length ∧ j = t.length
  := by
  rw [matches_look_iff]
  constructor
  · rintro ⟨rfl, n, hn, hstop⟩
    have hlt := (List.getElem?_eq_some_iff.mp hn).1
    rw [length_neighbours] at hlt
    by_cases hj : j < t.length
    · simp only [neighbours, List.getElem?_zip_eq_some] at hn
      rw [List.getElem?_append_left (by simpa using hj), List.getElem?_map,
        List.getElem?_eq_getElem hj] at hn
      rw [← Option.some.inj hn.2] at hstop
      contradiction
    · omega
  · rintro ⟨rfl, rfl⟩
    have hlt : t.length < (none :: t.map some).length := by simp
    refine ⟨rfl, ((none :: t.map some)[t.length], none), ?_, rfl⟩
    simp [neighbours]

/-- Between the anchors of a text, an expression is found exactly if the whole text is a
match. -/
theorem foundIn_anchored_iff :
  (cat (look .start) (cat r (look .stop))).foundIn t = true ↔ Matches t r 0 t.length
  := by
  rw [foundIn_iff]
  simp only [matches_cat_iff, matches_start_iff, matches_stop_iff]
  constructor
  · rintro ⟨i, j, -, ⟨-, rfl⟩, k, h, rfl, -⟩
    apply h
  · intro h
    exact ⟨0, t.length, 0, ⟨rfl, rfl⟩, t.length, h, rfl, rfl⟩

end Regex

end DirectiveLint.Pattern
