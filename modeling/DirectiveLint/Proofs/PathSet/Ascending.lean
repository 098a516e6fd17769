import DirectiveLint.PathSet
import Mathlib.Data.List.Sort

/-!
# The order of paths in a set

Components are ordered by their kinds and names by their characters, and paths by the first
component in which they differ.  `PathSet.Ascending` is the invariant of a set of paths: each
path comes before all that follow it.  Putting in a path keeps it, so the set of a list of
paths has it (`PathSet.ascending_ofList`).  Up to the way in which its paths are written, the
set is determined by the paths that it holds (`PathSet.Ascending.map_components_congr`).
-/

namespace DirectiveLint

namespace Component

variable {c d e : Component}

theorem before_trans (hcd : c.before d = true) (hde : d.before e = true) :
  c.before e = true
  := by
  cases c <;> cases d <;> cases e <;> simp_all [before, rank]
  apply List.lt_trans hcd hde

theorem before_irrefl (c : Component) :
  ¬ c.before c = true
  := by
  cases c with
  | name s =>
    rw [before, decide_eq_true_iff]
    apply List.lt_irrefl
  | _ => decide

/-- Of two different components, one comes before the other. -/
theorem eq_of_not_before (hcd : ¬ c.before d = true) (hdc : ¬ d.before c = true) :
  c = d
  := by
  cases c with
  | name s =>
    cases d with
    | name u =>
      rw [before, decide_eq_true_iff, List.not_lt] at hcd hdc
      rw [List.le_antisymm hdc hcd]
    | _ => simp [before, rank] at hdc
  | _ => cases d <;> simp_all [before, rank]

end Component

theorem componentsBefore_cons_iff {c d : Component} {cs ds : List Component} :
  componentsBefore (c :: cs) (d :: ds) = true
    ↔ c.before d = true ∨ c = d ∧ componentsBefore cs ds = true
  := by
  rw [componentsBefore, Bool.or_eq_true, Bool.and_eq_true, beq_iff_eq]

theorem componentsBefore_trans {cs ds es : List Component} (hcd : componentsBefore cs ds = true)
    (hde : componentsBefore ds es = true) :
  componentsBefore cs es = true
  := by
  induction cs generalizing ds es with
  | nil =>
    cases es with
    | nil => cases ds <;> contradiction
    | cons e es => rfl
  | cons c cs ih =>
    rcases ds with _ | ⟨d, ds⟩
    · contradiction
    rcases es with _ | ⟨e, es⟩
    · contradiction
    rw [componentsBefore_cons_iff] at hcd hde ⊢
    rcases hcd with hcd | ⟨rfl, hcd⟩ <;> rcases hde with hde | ⟨rfl, hde⟩
    · apply Or.inl (Component.before_trans hcd hde)
    · apply Or.inl hcd
    · apply Or.inl hde
    · apply Or.inr ⟨rfl, ih hcd hde⟩

theorem componentsBefore_irrefl (cs : List Component) :
  ¬ componentsBefore cs cs = true
  := by
  induction cs with
  | nil => decide
  | cons c cs ih =>
    rw [componentsBefore_cons_iff, not_or]
    use c.before_irrefl
    rintro ⟨-, h⟩
    apply ih h

instance : Std.Irrefl fun cs ds => componentsBefore cs ds = true := ⟨componentsBefore_irrefl⟩

instance : Std.Antisymm fun cs ds => componentsBefore cs ds = true where
  antisymm cs ds hcd hdc := by
    cases componentsBefore_irrefl cs (componentsBefore_trans hcd hdc)

/-- Of two different lists of components, one comes before the other. -/
theorem eq_of_not_componentsBefore {cs ds : List Component}
    (hcd : ¬ componentsBefore cs ds = true) (hdc : ¬ componentsBefore ds cs = true) :
  cs = ds
  := by
  induction cs generalizing ds with
  | nil =>
    cases ds with
    | nil => rfl
    | cons d ds => cases hcd rfl
  | cons c cs ih =>
    rcases ds with _ | ⟨d, ds⟩
    · cases hdc rfl
    rw [componentsBefore_cons_iff, not_or] at hcd hdc
    obtain rfl : c = d := Component.eq_of_not_before hcd.1 hdc.1
    rw [ih (fun h => hcd.2 ⟨rfl, h⟩) (fun h => hdc.2 ⟨rfl, h⟩)]

namespace PathSet

variable {s : PathSet} {p q : Path}

/-- Each path comes before those that follow it. -/
def Ascending (s : PathSet) : Prop := s.Pairwise fun p q => p.before q = true

theorem mem_of_mem_insert (h : q ∈ s.insert p) :
  q = p ∨ q ∈ s
  := by
  induction s with
  | nil => apply Or.inl (List.mem_singleton.mp h)
  | cons r s ih =>
    rw [insert] at h
    split at h
    · apply Or.inr h
    · split at h
      · apply List.mem_cons.mp h
      · rcases List.mem_cons.mp h with rfl | h
        · apply Or.inr List.mem_cons_self
        · apply (ih h).imp id (List.mem_cons_of_mem r)

/-- The new path comes behind those that are before it. -/
theorem Ascending.insert (h : s.Ascending) (p : Path) :
  Ascending (s.insert p)
  := by
  induction s with
  | nil => apply List.pairwise_singleton
  | cons q s ih =>
    obtain ⟨hq, hs⟩ := List.pairwise_cons.mp h
    rw [PathSet.insert]
    split
    · apply h
    · next hsame =>
      split
      · next hpq =>
        apply List.pairwise_cons.mpr ⟨?_, h⟩
        rw [List.forall_mem_cons]
        refine ⟨hpq, ?_⟩
        intro r hr
        apply componentsBefore_trans hpq (hq r hr)
      · next hpq =>
        apply List.pairwise_cons.mpr ⟨?_, ih hs⟩
        intro r hr
        rcases mem_of_mem_insert hr with rfl | hr
        · apply Decidable.of_not_not
          intro hqp
          apply hsame
          rw [Path.same, eq_of_not_componentsBefore hpq hqp]
          apply beq_self_eq_true
        · apply hq r hr

theorem Ascending.foldl_insert (h : s.Ascending) (ps : List Path) :
  Ascending (ps.foldl PathSet.insert s)
  := by
  induction ps generalizing s with
  | nil => apply h
  | cons p ps ih => apply ih (h.insert p)

theorem mem_of_mem_foldl_insert {ps : List Path} (h : q ∈ ps.foldl PathSet.insert s) :
  q ∈ s ∨ q ∈ ps
  := by
  induction ps generalizing s with
  | nil => apply Or.inl h
  | cons p ps ih =>
    rw [List.mem_cons]
    rcases ih h with h | h
    · rcases mem_of_mem_insert h with rfl | h
      · apply Or.inr (Or.inl rfl)
      · apply Or.inl h
    · apply Or.inr (Or.inr h)

/-- The set of some paths is ascending. -/
theorem ascending_ofList (ps : List Path) :
  (ofList ps).Ascending
  := by
  apply Ascending.foldl_insert
  apply List.Pairwise.nil

theorem mem_of_mem_ofList {ps : List Path} (h : q ∈ ofList ps) :
  q ∈ ps
  := by
  rcases mem_of_mem_foldl_insert h with hnil | hq
  · contradiction
  · apply hq

/-! ### What a set holds -/

theorem Ascending.pairwise_components (h : s.Ascending) :
  (s.map Path.components).Pairwise fun cs ds => componentsBefore cs ds = true
  := List.pairwise_map.mpr h

/-- No two paths of a set have the same components. -/
theorem Ascending.nodup_components (h : s.Ascending) :
  (s.map Path.components).Nodup
  := h.pairwise_components.nodup

/-- A set holds the path that was put in, maybe in another spelling, and what it held. -/
theorem map_components_insert_iff {cs : List Component} :
  cs ∈ (s.insert p).map Path.components ↔ cs = p.components ∨ cs ∈ s.map Path.components
  := by
  induction s with
  | nil => simp [insert]
  | cons q s ih =>
    rw [insert]
    split
    · next h =>
      rw [Path.same, beq_iff_eq] at h
      rw [h, List.map_cons, List.mem_cons, or_self_left]
    · split
      · rw [List.map_cons, List.mem_cons]
      · rw [List.map_cons, List.mem_cons, ih, List.map_cons, List.mem_cons, or_left_comm]

theorem map_components_foldl_insert_iff {ps : List Path} {cs : List Component} :
  cs ∈ (ps.foldl PathSet.insert s).map Path.components
    ↔ cs ∈ s.map Path.components ∨ cs ∈ ps.map Path.components
  := by
  induction ps generalizing s with
  | nil => simp
  | cons p ps ih =>
    rw [List.foldl_cons, ih, map_components_insert_iff, List.map_cons, List.mem_cons, or_assoc,
      or_left_comm]

/-- The set of some paths holds all of them, maybe in other spellings, and nothing else. -/
theorem map_components_ofList_iff {ps : List Path} {cs : List Component} :
  cs ∈ (ofList ps).map Path.components ↔ cs ∈ ps.map Path.components
  := by
  rw [ofList, map_components_foldl_insert_iff, List.map_nil, or_iff_right List.not_mem_nil]

/-- Sets that hold the same paths are the same up to their spelling. -/
theorem Ascending.map_components_congr {s' : PathSet} (h : s.Ascending) (h' : s'.Ascending)
    (hmem : ∀ cs, cs ∈ s.map Path.components ↔ cs ∈ s'.map Path.components) :
  s.map Path.components = s'.map Path.components
  := h.pairwise_components.eq_of_mem_iff h'.pairwise_components hmem

end PathSet

end DirectiveLint
