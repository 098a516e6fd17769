import DirectiveLint.Path
import DirectiveLint.Proofs.Text.Pieces
import Mathlib.Data.List.TakeWhile

/-!
# Paths below a directory

A path has an anchor, where it starts, and names behind it; `Path.components_eq` says that
these are its components.  Below a directory a relative path has the anchor of the directory
and the names of both, so it makes a difference to take it from the directory twice, unless
the directory has no names (`Path.same_join_join_iff`).  A name below a directory is one more
component (`Path.components_join_of_isName`).  The directory of a path is absolute if the path
is, and is not written if there is no slash in the path.
-/

namespace DirectiveLint.Path

variable {p q base : Path} {name : Bytes}

/-- Where a path starts: at the root, at a written `.`, or at nothing that is written. -/
def anchor (p : Path) : List Component :=
  if p.isAbsolute then [.root]
  else if (pieces slash p.bytes).head? = some [dot] then [.here] else []

/-- The names in a path and the `..` between them. -/
def named (p : Path) : List Component := (pieces slash p.bytes).filterMap componentOf?

theorem components_eq :
  p.components = p.anchor ++ p.named
  := by
  unfold components anchor named
  dsimp only
  split
  · rfl
  · split <;> rfl

theorem componentOf?_eq_some_name_iff {piece : Bytes} :
  componentOf? piece = some (.name name)
    ↔ piece = name ∧ name ≠ [] ∧ name ≠ [dot] ∧ name ≠ [dot, dot]
  := by
  unfold componentOf?
  split
  · grind
  · split <;> grind

/-- The names in a path are those pieces between its slashes that are none of the special
ones. -/
theorem name_mem_components_iff :
  .name name ∈ p.components
    ↔ name ∈ pieces slash p.bytes ∧ name ≠ [] ∧ name ≠ [dot] ∧ name ≠ [dot, dot]
  := by
  have hanchor : .name name ∉ p.anchor := by
    unfold anchor
    split
    · simp
    · split <;> simp
  rw [components_eq, List.mem_append, or_iff_right hanchor, named, List.mem_filterMap]
  constructor
  · rintro ⟨piece, hpiece, hname⟩
    obtain ⟨rfl, hne⟩ := componentOf?_eq_some_name_iff.mp hname
    exact ⟨hpiece, hne⟩
  · rintro ⟨hpiece, hne⟩
    exact ⟨name, hpiece, componentOf?_eq_some_name_iff.mpr ⟨rfl, hne⟩⟩

theorem named_nil :
  named ⟨[]⟩ = []
  := rfl

theorem named_append_cons (s u : Bytes) :
  named ⟨s ++ slash :: u⟩ = named ⟨s⟩ ++ named ⟨u⟩
  := by
  rw [named, pieces_append_cons, List.filterMap_append]
  rfl

/-- What follows a slash has no influence on where a path starts. -/
theorem anchor_append_cons (s u : Bytes) :
  anchor ⟨s ++ slash :: u⟩ = if s = [] then [.root] else anchor ⟨s⟩
  := by
  cases s with
  | nil => rfl
  | cons c s =>
    rw [if_neg (List.cons_ne_nil c s)]
    have hhead : (pieces slash (c :: s ++ slash :: u)).head? = (pieces slash (c :: s)).head? := by
      obtain ⟨first, rest, hpieces⟩ := List.exists_cons_of_ne_nil (pieces_ne_nil slash (c :: s))
      rw [pieces_append_cons, hpieces]
      rfl
    unfold anchor
    rw [hhead]
    rfl

/-- A path without a slash is not absolute. -/
theorem not_isAbsolute_of_not_mem (h : slash ∉ name) :
  ¬ isAbsolute ⟨name⟩ = true
  := by
  rw [isAbsolute, beq_iff_eq]
  intro hhead
  apply h (List.mem_of_head? hhead)

/-- Bytes between slashes that stand for a name are a path with this one component. -/
theorem anchor_and_named_of_isName (hslash : slash ∉ name)
    (hname : componentOf? name = some (.name name)) :
  anchor ⟨name⟩ = [] ∧ named ⟨name⟩ = [.name name]
  := by
  have hpieces : pieces slash name = [name] := pieces_eq_singleton hslash
  obtain ⟨-, -, hhere, -⟩ := componentOf?_eq_some_name_iff.mp hname
  rw [anchor, named, if_neg (not_isAbsolute_of_not_mem hslash), hpieces, List.head?_cons,
    if_neg (by simpa using hhere), List.filterMap_cons, hname]
  exact ⟨rfl, rfl⟩

theorem components_of_isName (hslash : slash ∉ name)
    (hname : componentOf? name = some (.name name)) :
  components ⟨name⟩ = [.name name]
  := by
  obtain ⟨hanchor, hnamed⟩ := anchor_and_named_of_isName hslash hname
  rw [components_eq, hanchor, hnamed, List.nil_append]

theorem isAbsolute_eq_anchor :
  p.isAbsolute = true ↔ p.anchor = [.root]
  := by
  unfold anchor
  split
  · next h => simp [h]
  · next h => split <;> simp [h]

/-! ### Joining -/

theorem join_of_isAbsolute (h : q.isAbsolute = true) :
  base.join q = q
  := by
  rw [join, if_pos h]

theorem join_of_bytes_eq_nil (h : base.bytes = []) :
  base.join q = q
  := by
  unfold join
  split
  · rfl
  · rw [if_pos (.inl h), h]
    rfl

/-- Between a directory that is written and a relative path there is one slash. -/
theorem exists_join_eq (hbase : base.bytes ≠ []) (hq : q.isAbsolute = false) :
  ∃ s, (base.join q).bytes = s ++ slash :: q.bytes ∧ base.named = named ⟨s⟩
    ∧ base.anchor = if s = [] then [.root] else anchor ⟨s⟩
  := by
  obtain ⟨bytes⟩ := base
  dsimp only at hbase
  unfold join
  rw [if_neg (Bool.not_eq_true _ ▸ hq)]
  by_cases hlast : bytes.getLast? = some slash
  · obtain ⟨s, rfl⟩ := List.getLast?_eq_some_iff.mp hlast
    refine ⟨s, ?_, ?_, anchor_append_cons s []⟩
    · rw [if_pos (.inr hlast), List.append_assoc]
      rfl
    · rw [named_append_cons, named_nil, List.append_nil]
  · refine ⟨bytes, ?_, rfl, ?_⟩
    · rw [if_neg (not_or.mpr ⟨hbase, hlast⟩)]
    · rw [if_neg hbase]

/-- A path below a directory that is written is written. -/
theorem bytes_join_ne_nil (hbase : base.bytes ≠ []) :
  (base.join q).bytes ≠ []
  := by
  by_cases hq : q.isAbsolute = true
  · rw [join_of_isAbsolute hq]
    intro hnil
    rw [isAbsolute, hnil] at hq
    contradiction
  · obtain ⟨s, hs, -, -⟩ := exists_join_eq hbase (Bool.eq_false_iff.mpr hq)
    rw [hs]
    apply List.append_ne_nil_of_right_ne_nil s (List.cons_ne_nil _ _)

theorem anchor_join (hbase : base.bytes ≠ []) (hq : q.isAbsolute = false) :
  (base.join q).anchor = base.anchor
  := by
  obtain ⟨s, hs, -, hanchor⟩ := exists_join_eq hbase hq
  rw [hanchor, ← anchor_append_cons s q.bytes, ← hs]

theorem named_join (hbase : base.bytes ≠ []) (hq : q.isAbsolute = false) :
  (base.join q).named = base.named ++ q.named
  := by
  obtain ⟨s, hs, hnamed, -⟩ := exists_join_eq hbase hq
  rw [hnamed, ← named_append_cons s q.bytes, ← hs]

/-- Below a directory that is written, a name is a further component. -/
theorem components_join_of_isName (hbase : base.bytes ≠ []) (hslash : slash ∉ name)
    (hname : componentOf? name = some (.name name)) :
  (base.join ⟨name⟩).components = base.components ++ [.name name]
  := by
  obtain ⟨hanchor, hnamed⟩ := anchor_and_named_of_isName hslash hname
  have hrelative := Bool.eq_false_iff.mpr (not_isAbsolute_of_not_mem hslash)
  rw [components_eq, components_eq, anchor_join hbase hrelative, named_join hbase hrelative,
    hnamed, List.append_assoc]

/-- A path below an absolute directory is absolute. -/
theorem isAbsolute_join (h : base.isAbsolute = true) :
  (base.join q).isAbsolute = true
  := by
  by_cases hq : q.isAbsolute = true
  · rw [join_of_isAbsolute hq]
    apply hq
  · have hbase : base.bytes ≠ [] := by
      intro hnil
      rw [isAbsolute, hnil] at h
      contradiction
    rw [isAbsolute_eq_anchor, anchor_join hbase (Bool.eq_false_iff.mpr hq)]
    apply isAbsolute_eq_anchor.mp h

/-- To take a path from a directory twice is the same as to take it once exactly if it is
absolute then or the directory has no names. -/
theorem same_join_join_iff :
  (base.join (base.join q)).same (base.join q) = true
    ↔ (base.join q).isAbsolute = true ∨ base.named = []
  := by
  rw [same, beq_iff_eq]
  by_cases hjoin : (base.join q).isAbsolute = true
  · rw [join_of_isAbsolute hjoin]
    exact iff_of_true rfl (.inl hjoin)
  · by_cases hbase : base.bytes = []
    · rw [join_of_bytes_eq_nil hbase]
      have hnamed : base.named = [] := by rw [named, hbase]; rfl
      exact iff_of_true rfl (.inr hnamed)
    · have hrelative := Bool.eq_false_iff.mpr hjoin
      have hq : q.isAbsolute = false := by
        apply Bool.eq_false_iff.mpr
        intro hq
        apply hjoin
        rw [join_of_isAbsolute hq]
        apply hq
      rw [components_eq, components_eq, anchor_join hbase hrelative, anchor_join hbase hq,
        List.append_cancel_left_eq, named_join hbase hrelative, List.append_left_eq_self]
      simp [hjoin]

/-! ### The directory above -/

theorem trimBack_suffix (fuel : Nat) (bs : Bytes) :
  trimBack fuel bs <:+ bs
  := by
  fun_induction trimBack fuel bs with
  | case1 bs => apply List.suffix_rfl
  | case2 fuel => apply List.suffix_rfl
  | case3 fuel rest _ ih => apply ih.trans (List.suffix_cons slash rest)
  | case4 fuel rest ih => apply ih.trans (List.suffix_cons dot (slash :: rest))
  | case5 fuel bs _ _ _ => apply List.suffix_rfl

/-- The slash at the start of a path, the last one backwards, is not trimmed. -/
theorem getLast?_trimBack (fuel : Nat) {bs : Bytes} (h : bs.getLast? = some slash) :
  (trimBack fuel bs).getLast? = some slash
  := by
  fun_induction trimBack fuel bs with
  | case1 bs => apply h
  | case2 fuel => apply h
  | case3 fuel rest hne ih =>
    apply ih
    rw [List.getLast?_cons_of_ne_nil hne] at h
    apply h
  | case4 fuel rest ih =>
    apply ih
    rw [List.getLast?_cons_of_ne_nil (List.cons_ne_nil _ _)] at h
    apply h
  | case5 fuel bs _ _ _ => apply h

theorem getLast?_dropWhile {α : Type} {P : α → Bool} {a : α} {as : List α}
    (h : as.getLast? = some a) (ha : P a = false) :
  (as.dropWhile P).getLast? = some a
  := by
  obtain ⟨init, rfl⟩ := List.getLast?_eq_some_iff.mp h
  rw [List.dropWhile_append]
  split
  · rw [List.dropWhile_cons, ha]
    rfl
  · rw [List.getLast?_concat]

theorem isAbsolute_of_parent?_eq_some (h : p.isAbsolute = true) (hbase : p.parent? = some base) :
  base.isAbsolute = true
  := by
  unfold parent? at hbase
  split at hbase
  · contradiction
  · contradiction
  · obtain rfl := Option.some.inj hbase
    rw [isAbsolute, beq_iff_eq] at h ⊢
    dsimp only
    rw [List.head?_reverse]
    apply getLast?_trimBack
    apply getLast?_dropWhile _ (by decide)
    apply getLast?_trimBack
    rw [List.getLast?_reverse, h]

/-- The directory of a path without a slash is not written. -/
theorem bytes_of_parent?_eq_some (h : slash ∉ p.bytes) (hbase : p.parent? = some base) :
  base.bytes = []
  := by
  unfold parent? at hbase
  split at hbase
  · contradiction
  · contradiction
  · obtain rfl := Option.some.inj hbase
    have htrimmed : (trimBack (p.bytes.length + 1) p.bytes.reverse).dropWhile (· ≠ slash) = [] := by
      rw [List.dropWhile_eq_nil_iff]
      intro c hc
      rw [decide_eq_true_iff]
      rintro rfl
      apply h
      rw [← List.mem_reverse]
      apply (trimBack_suffix _ _).mem hc
    dsimp only
    rw [htrimmed]
    rfl

end DirectiveLint.Path
