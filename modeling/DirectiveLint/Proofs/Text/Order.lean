import DirectiveLint.Text.Order
import Mathlib.Data.List.Induction

/-!
# The keys of a map

A map is a list of entries in ascending order of their keys; `TextMap.Ascending` is this
invariant.  Putting in an entry keeps it, so the map of a list of entries has it
(`TextMap.ascending_ofList`).
-/

namespace DirectiveLint.TextMap

variable {α : Type} {m : TextMap α} {key : Text}

/-- The keys of the entries ascend. -/
def Ascending (m : TextMap α) : Prop := m.Pairwise fun a b => a.1 < b.1

theorem contains_iff_mem_keys :
  m.contains key = true ↔ key ∈ m.keys
  := by
  unfold contains keys
  induction m with
  | nil => simp [find?]
  | cons e m ih =>
    obtain ⟨k, v⟩ := e
    rw [find?, List.map_cons, List.mem_cons]
    split
    · next h => simp [h]
    · next h => simp only [ih, Ne.symm h, false_or]

theorem mem_keys_insert (value : α) {other : Text} :
  other ∈ (m.insert key value).keys ↔ other = key ∨ other ∈ m.keys
  := by
  simp only [← contains_iff_mem_keys, contains]
  by_cases h : other = key
  · subst h
    simp
  · rw [find?_insert_of_ne m value h]
    simp [h]

theorem keys_modify (f : α → α) :
  (m.modify key f).keys = m.keys
  := by
  unfold modify keys
  rw [List.map_map]
  apply List.map_congr_left
  rintro ⟨k, v⟩ -
  dsimp only [Function.comp]
  split <;> rfl

theorem mem_insert {value : α} {e : Text × α} (h : e ∈ m.insert key value) :
  e = (key, value) ∨ e ∈ m
  := by
  induction m with
  | nil =>
    rw [insert, List.mem_singleton] at h
    apply Or.inl h
  | cons a m ih =>
    obtain ⟨k, v⟩ := a
    unfold insert at h
    split at h
    · apply List.mem_cons.mp h
    · split at h
      · rcases List.mem_cons.mp h with h | h
        · apply Or.inl h
        · apply Or.inr (List.mem_cons_of_mem _ h)
      · rcases List.mem_cons.mp h with rfl | h
        · apply Or.inr List.mem_cons_self
        · apply (ih h).imp_right
          apply List.mem_cons_of_mem

/-- A map that is made of entries has no others. -/
theorem mem_ofList {entries : List (Text × α)} {e : Text × α} (h : e ∈ ofList entries) :
  e ∈ entries
  := by
  unfold ofList at h
  induction entries using List.reverseRecOn with
  | nil => apply h
  | append_singleton entries a ih =>
    rw [List.foldl_append, List.foldl_cons, List.foldl_nil] at h
    rw [List.mem_append, List.mem_singleton]
    rcases mem_insert h with rfl | h
    · apply Or.inr rfl
    · apply Or.inl (ih h)

theorem modify_cons (f : α → α) (k : Text) (v : α) :
  modify ((k, v) :: m) key f = (if k = key then (k, f v) else (k, v)) :: m.modify key f
  := rfl

theorem find?_modify (f : α → α) {other : Text} :
  (m.modify key f).find? other = if other = key then (m.find? other).map f else m.find? other
  := by
  induction m with
  | nil => simp [modify, find?]
  | cons e m ih =>
    obtain ⟨k, v⟩ := e
    rw [modify_cons, find?]
    by_cases hk : k = key
    · rw [if_pos hk, find?, ih, hk]
      split <;> simp_all
    · rw [if_neg hk, find?, ih]
      split <;> simp_all

/-- Changing the value of a key that has none changes nothing. -/
theorem modify_of_contains_eq_false (f : α → α) (h : m.contains key = false) :
  m.modify key f = m
  := by
  rw [← Bool.not_eq_true, contains_iff_mem_keys] at h
  induction m with
  | nil => rfl
  | cons e m ih =>
    obtain ⟨k, v⟩ := e
    have hkeys : k ≠ key ∧ key ∉ keys m := by simpa [keys, eq_comm] using h
    rw [modify_cons, if_neg hkeys.1, ih hkeys.2]

theorem ascending_iff_keys :
  m.Ascending ↔ m.keys.Pairwise (· < ·)
  := by
  rw [Ascending, keys, List.pairwise_map]

/-- No key occurs twice. -/
theorem Ascending.nodup_keys (h : m.Ascending) :
  m.keys.Nodup
  := by
  apply (ascending_iff_keys.mp h).imp
  rintro k _ hlt rfl
  apply List.lt_irrefl k hlt

/-- The new key comes behind the keys that are less. -/
theorem Ascending.insert (h : m.Ascending) (value : α) :
  (m.insert key value).Ascending
  := by
  induction m with
  | nil => apply List.pairwise_singleton
  | cons e m ih =>
    obtain ⟨k, v⟩ := e
    obtain ⟨hk, hm⟩ := List.pairwise_cons.mp h
    unfold TextMap.insert
    split
    · next hlt =>
      apply List.pairwise_cons.mpr ⟨?_, h⟩
      rw [List.forall_mem_cons]
      refine ⟨hlt, ?_⟩
      intro a ha
      apply List.lt_trans hlt (hk a ha)
    · next hlt =>
      split
      · next heq =>
        subst heq
        exact List.pairwise_cons.mpr ⟨hk, hm⟩
      · next hne =>
        apply List.pairwise_cons.mpr ⟨?_, ih hm⟩
        intro a ha
        have hkey : a.1 ∈ (TextMap.insert m key value).keys := List.mem_map_of_mem ha
        rcases (mem_keys_insert value).mp hkey with h | h
        · rw [h]
          apply Decidable.of_not_not
          intro hnot
          apply hne (Std.Trichotomous.trichotomous k key hnot hlt)
        · obtain ⟨b, hb, hab⟩ := List.mem_map.mp h
          rw [← hab]
          apply hk b hb

theorem Ascending.modify (h : m.Ascending) (f : α → α) :
  (m.modify key f).Ascending
  := by
  rw [ascending_iff_keys, keys_modify]
  apply ascending_iff_keys.mp h

/-- The map of a list of entries is ascending. -/
theorem ascending_ofList (entries : List (Text × α)) :
  (ofList entries).Ascending
  := by
  have hfold : ∀ m : TextMap α, m.Ascending →
      (entries.foldl (fun m e => m.insert e.1 e.2) m).Ascending := by
    induction entries with
    | nil =>
      intro m hm
      apply hm
    | cons e entries ih =>
      intro m hm
      apply ih
      apply hm.insert
  apply hfold
  apply List.Pairwise.nil

end DirectiveLint.TextMap
