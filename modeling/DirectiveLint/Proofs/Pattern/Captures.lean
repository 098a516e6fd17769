import DirectiveLint.Pattern.Captures
import DirectiveLint.Proofs.Pattern.Matching
import Mathlib.Data.List.Induction

/-!
# Searches for captures

The ways from a place on are the matches of the expression without its groups
(`Grouped.matches_of_mem_ways`, `Grouped.exists_mem_ways`), so that a search with groups succeeds
exactly where the expression is found (`Grouped.isSome_captures?`).  `Grouped.Prefers r p q` says
that the first of the ways of `r` from `p` leads to `q`; the lemmas about it follow the parts of
an expression.
-/

namespace DirectiveLint.Pattern

variable {p q q' : Position} {s : CharSet} {r r' : Grouped} {t : Text}

/-! ### Places -/

@[simp]
theorem Position.text_advance (p : Position) (n : Nat) :
  (p.advance n).text = p.text
  := by
  simp [text, advance]

@[simp]
theorem Position.text_mark (p : Position) (name : Text) (start : Position) :
  (p.mark name start).text = p.text
  := rfl

theorem Position.length_passed_le (p : Position) :
  p.passed.length ≤ p.text.length
  := by
  simp [text]

theorem Position.length_passed_advance {n : Nat} (h : n ≤ p.rest.length) :
  (p.advance n).passed.length = p.passed.length + n
  := by
  simp [advance, h]

theorem Position.getElem?_text (p : Position) :
  p.text[p.passed.length]? = p.rest.head?
  := by
  rw [text, List.getElem?_append_right (Nat.le_refl _), Nat.sub_self, List.head?_eq_getElem?]

theorem Position.getElem?_neighbours (p : Position) :
  (neighbours p.text)[p.passed.length]? = some (p.passed.getLast?, p.rest.head?)
  := by
  have hbefore : (none :: p.text.map some)[p.passed.length]? = some p.passed.getLast? := by
    rw [text]
    cases p.passed using List.reverseRecOn with
    | nil => rfl
    | append_singleton before c => simp
  have hbehind : (p.text.map some ++ [none])[p.passed.length]? = some p.rest.head? := by
    rw [text]
    cases p.rest <;> simp
  rw [neighbours, List.getElem?_zip_eq_some]
  exact ⟨hbefore, hbehind⟩

theorem Position.mem_starts_iff {passed : Text} :
  p ∈ starts passed t ↔ p.captures = [] ∧ p.text = passed ++ t ∧ passed <+: p.passed
  := by
  induction t generalizing passed with
  | nil =>
    rw [starts, List.mem_singleton]
    constructor
    · rintro rfl
      exact ⟨rfl, rfl, List.prefix_rfl⟩
    · rintro ⟨hcaptures, htext, behind, hpassed⟩
      obtain ⟨passed', rest, captures⟩ := p
      subst hpassed hcaptures
      simpa [text] using htext
  | cons c t ih =>
    rw [starts, List.mem_cons, ih]
    constructor
    · rintro (rfl | ⟨hcaptures, htext, hprefix⟩)
      · exact ⟨rfl, rfl, List.prefix_rfl⟩
      · refine ⟨hcaptures, ?_, (List.prefix_append _ _).trans hprefix⟩
        rw [htext, List.append_assoc, List.singleton_append]
    · rintro ⟨hcaptures, htext, behind, hpassed⟩
      obtain ⟨passed', rest, captures⟩ := p
      subst hpassed hcaptures
      cases behind with
      | nil =>
        left
        simpa [text] using htext
      | cons b behind =>
        right
        simp only [text, List.append_assoc, List.append_cancel_left_eq, List.cons_append,
          List.cons.injEq] at htext
        obtain ⟨rfl, rfl⟩ := htext
        refine ⟨rfl, ?_, behind, ?_⟩ <;> simp [text]

/-! ### Numbers of characters -/

theorem mem_counts_iff {least n : Nat} {most : Option Nat} :
  n ∈ counts s least most t
    ↔ (least ≤ n ∧ ∀ m ∈ most, n ≤ least + (m - least))
      ∧ n ≤ t.length ∧ ∀ c ∈ t.take n, s.mem c = true
  := by
  induction t generalizing least most n with
  | nil =>
    rw [counts]
    by_cases hleast : least = 0
    · simp +contextual [hleast]
    · simp [hleast]
      omega
  | cons c t ih =>
    rw [counts, List.mem_append]
    cases n with
    | zero =>
      by_cases hleast : least = 0 <;> simp [hleast]
    | succ n =>
      have hzero : n + 1 ∉ (if least = 0 then [0] else []) := by
        split <;> simp
      have hpassed : (∀ m ∈ most.map (· - 1), n ≤ least - 1 + (m - (least - 1)))
          ↔ ∀ m ∈ most, n ≤ least - 1 + (m - 1 - (least - 1)) := by
        simp
      have hbounds : (least ≠ 0 ∨ most ≠ some 0) ∧ least - 1 ≤ n
            ∧ (∀ m ∈ most.map (· - 1), n ≤ least - 1 + (m - (least - 1)))
          ↔ least ≤ n + 1 ∧ ∀ m ∈ most, n + 1 ≤ least + (m - least) := by
        rw [hpassed]
        cases most with
        | none => simp
        | some m =>
          simp only [ne_eq, Option.some.injEq, Option.mem_some_iff, forall_eq']
          omega
      simp only [hzero, or_false, List.length_cons, List.take_succ_cons, List.forall_mem_cons,
        List.mem_ite_nil_right, List.mem_map, Nat.add_right_cancel_iff, exists_eq_right, ih,
        Nat.add_le_add_iff_right, ← hbounds]
      tauto

theorem pairwise_counts (s : CharSet) (least : Nat) (most : Option Nat) (t : Text) :
  (counts s least most t).Pairwise (· > ·)
  := by
  induction t generalizing least most with
  | nil =>
    rw [counts]
    split <;> simp
  | cons c t ih =>
    rw [counts, List.pairwise_append]
    refine ⟨?_, ?_, ?_⟩
    · split
      · apply (ih _ _).map
        intro a b h
        exact Nat.succ_lt_succ h
      · apply List.Pairwise.nil
    · split <;> simp
    · split
      · split <;> simp
      · nofun

/-- The first number of characters is the greatest. -/
theorem head?_counts {least n : Nat} {most : Option Nat} (h : n ∈ counts s least most t)
    (hgreatest : ∀ m ∈ counts s least most t, m ≤ n) :
  (counts s least most t).head? = some n
  := by
  have hpairwise := pairwise_counts s least most t
  cases hcounts : counts s least most t with
  | nil => simp [hcounts] at h
  | cons m ms =>
    rw [hcounts] at h hgreatest hpairwise
    rcases List.mem_cons.mp h with rfl | h
    · rfl
    · have hless := (List.pairwise_cons.mp hpairwise).1 n h
      have hle := hgreatest m List.mem_cons_self
      omega

/-! ### Ways are matches -/

namespace Regex

/-- Some characters of a set in a row. -/
theorem repeats_set_iff {n j : Nat} :
  Repeats p.text (set s) n p.passed.length j
    ↔ j = p.passed.length + n ∧ n ≤ p.rest.length ∧ ∀ c ∈ p.rest.take n, s.mem c = true
  := by
  induction n generalizing p with
  | zero =>
    rw [repeats_zero_iff, eq_comm]
    simp [p.length_passed_le]
  | succ n ih =>
    rw [repeats_succ_iff]
    simp only [matches_set_iff, p.getElem?_text]
    cases hrest : p.rest with
    | nil => simp
    | cons c t =>
      have hone : 1 ≤ p.rest.length := by simp [hrest]
      have hnext := ih (p := p.advance 1)
      rw [Position.text_advance, Position.length_passed_advance hone] at hnext
      have htail : (p.advance 1).rest = t := by simp [Position.advance, hrest]
      rw [htail] at hnext
      simp only [List.head?_cons, Option.some.injEq, exists_eq_left', List.length_cons,
        List.take_succ_cons, List.forall_mem_cons, Nat.add_le_add_iff_right]
      constructor
      · rintro ⟨k, ⟨rfl, hc⟩, hmore⟩
        obtain ⟨rfl, hn, hall⟩ := hnext.mp hmore
        exact ⟨by omega, hn, hc, hall⟩
      · rintro ⟨rfl, hn, hc, hall⟩
        exact ⟨_, ⟨rfl, hc⟩, hnext.mpr ⟨by omega, hn, hall⟩⟩

end Regex

namespace Grouped

open Regex

theorem text_of_mem_ways (h : q ∈ r.ways p) :
  q.text = p.text
  := by
  induction r generalizing p q with
  | nothing _ =>
    obtain rfl := List.mem_singleton.mp h
    rfl
  | look _ l =>
    rw [ways] at h
    split at h
    · obtain rfl := List.mem_singleton.mp h
      rfl
    · contradiction
  | set _ s =>
    rw [ways] at h
    split at h
    · obtain rfl := List.mem_singleton.mp h
      apply p.text_advance
    · contradiction
  | run _ s least most =>
    obtain ⟨n, -, rfl⟩ := List.mem_map.mp h
    apply p.text_advance
  | cat r r' ihr ihr' =>
    obtain ⟨m, hm, hq⟩ := List.mem_flatMap.mp h
    rw [ihr' hq, ihr hm]
  | hold r ih => exact ih h
  | group name r ih =>
    obtain ⟨m, hm, rfl⟩ := List.mem_map.mp h
    rw [Position.text_mark, ih hm]
  | optional r ih =>
    rcases List.mem_append.mp h with h | h
    · exact ih h
    · obtain rfl := List.mem_singleton.mp h
      rfl

/-- A repetition at most once. -/
theorem matches_optional_iff {r : Regex} {i j : Nat} :
  Matches t (.rep r 0 (some 1)) i j ↔ Matches t r i j ∨ i = j ∧ i ≤ t.length
  := by
  rw [matches_rep_iff]
  constructor
  · rintro ⟨n, hn, -, hmost⟩
    have hle : n ≤ 1 := hmost 1 rfl
    match n, hle with
    | 0, _ => exact .inr (repeats_zero_iff.mp hn)
    | 1, _ =>
      obtain ⟨k, hk, hnone⟩ := repeats_succ_iff.mp hn
      obtain ⟨rfl, -⟩ := repeats_zero_iff.mp hnone
      exact .inl hk
  · rintro (h | h)
    · exact ⟨1, .more h (.none h.le.2), Nat.zero_le 1, by simp⟩
    · exact ⟨0, repeats_zero_iff.mpr h, Nat.le_refl 0, by simp⟩

/-- Each of the ways from a place is a match that starts there. -/
theorem matches_of_mem_ways (h : q ∈ r.ways p) :
  Matches p.text r.regex p.passed.length q.passed.length
  := by
  induction r generalizing p q with
  | nothing _ =>
    obtain rfl := List.mem_singleton.mp h
    exact .empty q.length_passed_le
  | look _ l =>
    rw [ways] at h
    split at h
    · next hl =>
      obtain rfl := List.mem_singleton.mp h
      exact .look q.getElem?_neighbours hl
    · contradiction
  | set _ s =>
    rw [ways] at h
    split at h
    · next hs =>
      obtain rfl := List.mem_singleton.mp h
      obtain ⟨c, hc, hs⟩ := Option.any_eq_true .. |>.mp hs
      obtain ⟨t, ht⟩ := List.head?_eq_some_iff.mp hc
      rw [Position.length_passed_advance (by simp [ht])]
      exact .set (p.getElem?_text.trans hc) hs
    · contradiction
  | run _ s least most =>
    obtain ⟨n, hn, rfl⟩ := List.mem_map.mp h
    obtain ⟨⟨hleast, hmost⟩, hlength, hall⟩ := mem_counts_iff.mp hn
    rw [Position.length_passed_advance hlength]
    exact matches_rep_iff.mpr ⟨n, repeats_set_iff.mpr ⟨rfl, hlength, hall⟩, hleast, hmost⟩
  | cat r r' ihr ihr' =>
    obtain ⟨m, hm, hq⟩ := List.mem_flatMap.mp h
    apply Matches.cat (ihr hm)
    rw [← text_of_mem_ways hm]
    exact ihr' hq
  | hold r ih => exact ih h
  | group name r ih =>
    obtain ⟨m, hm, rfl⟩ := List.mem_map.mp h
    have hmatch := ih hm
    exact hmatch
  | optional r ih =>
    apply matches_optional_iff.mpr
    rcases List.mem_append.mp h with h | h
    · exact .inl (ih h)
    · obtain rfl := List.mem_singleton.mp h
      exact .inr ⟨rfl, q.length_passed_le⟩

/-- Each match that starts at a place is one of the ways from there. -/
theorem exists_mem_ways {j : Nat} (h : Matches p.text r.regex p.passed.length j) :
  ∃ q ∈ r.ways p, q.passed.length = j
  := by
  induction r generalizing p j with
  | nothing _ =>
    obtain ⟨rfl, -⟩ := matches_empty_iff.mp h
    exact ⟨p, List.mem_singleton_self p, rfl⟩
  | look _ l =>
    obtain ⟨rfl, n, hn, hl⟩ := matches_look_iff.mp h
    rw [p.getElem?_neighbours] at hn
    obtain rfl := Option.some.inj hn
    refine ⟨p, ?_, rfl⟩
    rw [ways, if_pos hl]
    apply List.mem_singleton_self
  | set _ s =>
    obtain ⟨rfl, c, hc, hs⟩ := matches_set_iff.mp h
    rw [p.getElem?_text] at hc
    refine ⟨p.advance 1, ?_, ?_⟩
    · rw [ways, hc, if_pos (by simpa using hs)]
      apply List.mem_singleton_self
    · apply Position.length_passed_advance
      obtain ⟨t, ht⟩ := List.head?_eq_some_iff.mp hc
      simp [ht]
  | run _ s least most =>
    obtain ⟨n, hn, hleast, hmost⟩ := matches_rep_iff.mp h
    obtain ⟨rfl, hlength, hall⟩ := repeats_set_iff.mp hn
    refine ⟨p.advance n, ?_, Position.length_passed_advance hlength⟩
    apply List.mem_map_of_mem
    exact mem_counts_iff.mpr ⟨⟨hleast, hmost⟩, hlength, hall⟩
  | cat r r' ihr ihr' =>
    obtain ⟨k, hk, hj⟩ := matches_cat_iff.mp h
    obtain ⟨m, hm, rfl⟩ := ihr hk
    rw [← text_of_mem_ways hm] at hj
    obtain ⟨q, hq, rfl⟩ := ihr' hj
    exact ⟨q, List.mem_flatMap.mpr ⟨m, hm, hq⟩, rfl⟩
  | hold r ih => exact ih h
  | group name r ih =>
    obtain ⟨q, hq, rfl⟩ := ih h
    exact ⟨q.mark name p, List.mem_map_of_mem hq, rfl⟩
  | optional r ih =>
    rcases matches_optional_iff.mp h with h | ⟨rfl, -⟩
    · obtain ⟨q, hq, rfl⟩ := ih h
      exact ⟨q, List.mem_append_left _ hq, rfl⟩
    · exact ⟨p, List.mem_append_right _ (List.mem_singleton_self p), rfl⟩

/-- A search succeeds exactly if the expression without its groups is found. -/
theorem isSome_captures? (r : Grouped) (t : Text) :
  (r.captures? t).isSome = r.regex.foundIn t
  := by
  rw [Bool.eq_iff_iff, foundIn_iff, captures?, Option.isSome_map, List.isSome_head?,
    ← List.isEmpty_eq_false_iff, List.isEmpty_eq_false_iff_exists_mem]
  simp only [List.mem_flatMap, Position.mem_starts_iff]
  constructor
  · rintro ⟨q, p, ⟨-, rfl, -⟩, hq⟩
    exact ⟨p.passed.length, q.passed.length, matches_of_mem_ways hq⟩
  · rintro ⟨i, j, h⟩
    have hi : i ≤ t.length := Nat.le_trans h.le.1 h.le.2
    let p : Position := ⟨t.take i, t.drop i, []⟩
    have htext : p.text = t := List.take_append_drop i t
    have hpassed : p.passed.length = i := List.length_take_of_le hi
    rw [← htext, ← hpassed] at h
    obtain ⟨q, hq, -⟩ := exists_mem_ways h
    exact ⟨q, p, ⟨rfl, htext, List.nil_prefix⟩, hq⟩

/-! ### The first of the ways -/

/-- The first of the ways from a place leads to another one. -/
def Prefers (r : Grouped) (p q : Position) : Prop := (r.ways p).head? = some q

theorem prefers_nothing (written : Text) (p : Position) :
  Prefers (.nothing written) p p
  := rfl

theorem prefers_look {written : Text} {l : Look}
    (h : l.holds p.passed.getLast? p.rest.head? = true) :
  Prefers (.look written l) p p
  := by
  rw [Prefers, ways, if_pos h]
  rfl

theorem prefers_set {written : Text} {c : Char} (h : p.rest = c :: t) (hc : s.mem c = true) :
  Prefers (.set written s) p (p.advance 1)
  := by
  rw [Prefers, ways, h, if_pos (by simpa using hc)]
  rfl

/-- As many characters as possible are taken first. -/
theorem prefers_run {written : Text} {least n : Nat} {most : Option Nat}
    (h : n ∈ counts s least most p.rest) (hgreatest : ∀ m ∈ counts s least most p.rest, m ≤ n) :
  Prefers (.run written s least most) p (p.advance n)
  := by
  rw [Prefers, ways, List.head?_map, head?_counts h hgreatest]
  rfl

/-- Without bounds, all characters are taken that are in the set. -/
theorem prefers_run_takeWhile (written : Text) (s : CharSet) (p : Position) :
  Prefers (.run written s 0 none) p
    ⟨p.passed ++ p.rest.takeWhile s.mem, p.rest.dropWhile s.mem, p.captures⟩
  := by
  have htake : p.rest.take (p.rest.takeWhile s.mem).length = p.rest.takeWhile s.mem :=
    (List.prefix_iff_eq_take.mp (List.takeWhile_prefix _)).symm
  have hdrop : p.rest.drop (p.rest.takeWhile s.mem).length = p.rest.dropWhile s.mem := by
    have hparted := List.take_append_drop (p.rest.takeWhile s.mem).length p.rest
    rw [htake] at hparted
    have hparted' : p.rest.takeWhile s.mem ++ p.rest.dropWhile s.mem = p.rest :=
      List.takeWhile_append_dropWhile
    exact List.append_cancel_left (hparted.trans hparted'.symm)
  have hadvance : p.advance (p.rest.takeWhile s.mem).length
      = ⟨p.passed ++ p.rest.takeWhile s.mem, p.rest.dropWhile s.mem, p.captures⟩ := by
    rw [Position.advance, htake, hdrop]
  rw [← hadvance]
  apply prefers_run
  · apply mem_counts_iff.mpr
    refine ⟨⟨Nat.zero_le _, nofun⟩, (List.takeWhile_prefix _).length_le, ?_⟩
    rw [htake]
    exact List.all_eq_true.mp List.all_takeWhile
  · intro n hn
    obtain ⟨-, hlength, hall⟩ := mem_counts_iff.mp hn
    have htaken : (p.rest.take n ++ p.rest.drop n).takeWhile s.mem
        = p.rest.take n ++ (p.rest.drop n).takeWhile s.mem := List.takeWhile_append_of_pos hall
    rw [List.take_append_drop] at htaken
    rw [htaken, List.length_append, List.length_take_of_le hlength]
    exact Nat.le_add_right _ _

theorem Prefers.cat (h : Prefers r p q) (h' : Prefers r' q q') :
  Prefers (.cat r r') p q'
  := by
  obtain ⟨others, hways⟩ := List.head?_eq_some_iff.mp h
  rw [Prefers, ways, hways, List.flatMap_cons, List.head?_append, h', Option.some_or]

theorem Prefers.hold (h : Prefers r p q) :
  Prefers (.hold r) p q
  := h

theorem Prefers.group (h : Prefers r p q) (name : Text) :
  Prefers (.group name r) p (q.mark name p)
  := by
  rw [Prefers, ways, List.head?_map, h]
  rfl

/-- What can be matched is not left out. -/
theorem Prefers.optional (h : Prefers r p q) :
  Prefers (.optional r) p q
  := by
  rw [Prefers, ways, List.head?_append, h, Option.some_or]

/-- What cannot be matched is left out. -/
theorem prefers_optional (h : r.ways p = []) :
  Prefers (.optional r) p p
  := by
  rw [Prefers, ways, h]
  rfl

/-- A search finds what the first way from the start of the text marks. -/
theorem captures?_of_prefers (h : Prefers r ⟨[], t, []⟩ q) :
  r.captures? t = some q.captures
  := by
  obtain ⟨others, hways⟩ := List.head?_eq_some_iff.mp h
  rw [captures?]
  cases t <;> rw [Position.starts, List.flatMap_cons, hways] <;> rfl

end Grouped

end DirectiveLint.Pattern
