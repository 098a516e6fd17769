import DirectiveLint.DocumentStore
import Mathlib.Data.Set.Card

/-!
# What a store holds after some operations

A store is changed by operations, each of which is about one document: `find?_apply` says
what an operation does to each document.  After operations on an empty store, it holds of
every document what the last operation on it left there, and nothing else
(`DocumentStore.run_holds_latest`).  Documents are told apart by the components of their
paths, and no operation makes a store hold one twice (`Operation.nodup_apply`).
-/

namespace DirectiveLint

namespace Path

variable {p q r : Path}

theorem same_iff :
  p.same q = true ↔ p.components = q.components
  := beq_iff_eq

/-- Paths with the same components are the same as the same paths. -/
theorem same_congr_left (h : p.same q = true) :
  p.same r = q.same r
  := by
  rw [same, same, same_iff.mp h]

theorem same_congr_right (h : p.same q = true) :
  r.same p = r.same q
  := by
  rw [same, same, same_iff.mp h]

end Path

namespace DocumentStore

variable {s : DocumentStore} {p q : Path}

/-! ### One operation -/

/-- An entry of another document hides nothing of what is found of a document. -/
theorem find?_cons_of_not_same {r : Path} {old : List Finding} {s' : DocumentStore}
    {found : Option (List Finding)} (hrp : ¬ r.same p = true)
    (h : s'.find? q = if p.same q then found else s.find? q) :
  find? ((r, old) :: s') q = if p.same q then found else find? ((r, old) :: s) q
  := by
  rw [find?, find?, h]
  by_cases hpq : p.same q = true
  · have hrq : ¬ r.same q = true := by
      rw [← Path.same_congr_right hpq]
      apply hrp
    rw [if_neg hrq, if_pos hpq, if_pos hpq]
  · rw [if_neg hpq, if_neg hpq]

theorem find?_publish (findings : List Finding) :
  (s.publish p findings).find? q = if p.same q then some findings else s.find? q
  := by
  induction s with
  | nil => rfl
  | cons e s ih =>
    obtain ⟨r, old⟩ := e
    rw [publish]
    by_cases hrp : r.same p = true
    · rw [if_pos hrp, find?, find?, Path.same_congr_left hrp]
      split <;> rfl
    · rw [if_neg hrp]
      apply find?_cons_of_not_same hrp ih

theorem find?_clear :
  (s.clear p).find? q = if p.same q then none else s.find? q
  := by
  unfold clear
  induction s with
  | nil => rw [List.filter_nil, find?, ite_self]
  | cons e s ih =>
    obtain ⟨r, old⟩ := e
    by_cases hrp : r.same p = true
    · rw [List.filter_cons_of_neg (by simp [hrp]), ih, find?, Path.same_congr_left hrp]
      split <;> rfl
    · rw [List.filter_cons_of_pos (by simp [hrp])]
      apply find?_cons_of_not_same hrp ih

/-- Something that is done with the findings of a document. -/
inductive Operation where
  /-- The document is checked by a linter. -/
  | lint (l : Linter) (p : Path) (text : Text)
  /-- The findings are replaced. -/
  | publish (p : Path) (findings : List Finding)
  /-- The findings are dropped. -/
  | clear (p : Path)

namespace Operation

/-- The path of the document. -/
def path : Operation → Path
  | lint _ p _ => p
  | publish p _ => p
  | clear p => p

/-- The findings that the operation leaves of the document. -/
def findings? : Operation → Option (List Finding)
  | lint l p text => if l.appliesTo p then some (l.checkDocument text) else none
  | publish _ findings => some findings
  | clear _ => none

/-- The store after an operation. -/
def apply (s : DocumentStore) : Operation → DocumentStore
  | lint l p text => s.lint l p text
  | publish p findings => s.publish p findings
  | clear p => s.clear p

/-- An operation changes the findings of its own document only. -/
theorem find?_apply (o : Operation) :
  (o.apply s).find? q = if o.path.same q then o.findings? else s.find? q
  := by
  cases o with
  | lint l p text =>
    rw [apply, DocumentStore.lint, findings?, path]
    by_cases h : l.appliesTo p = true
    · rw [if_pos h, if_pos h]
      apply find?_publish
    · rw [if_neg h, if_neg h]
      apply find?_clear
  | publish p findings => apply find?_publish
  | clear p => apply find?_clear

end Operation

/-! ### The documents that are held -/

/-- The components of the paths of the documents that are held. -/
def documents (s : DocumentStore) : List (List Component) := s.map (·.1.components)

theorem mem_documents_iff :
  p.components ∈ s.documents ↔ (s.find? p).isSome = true
  := by
  unfold documents
  induction s with
  | nil => simp [find?]
  | cons e s ih =>
    obtain ⟨q, findings⟩ := e
    rw [List.map_cons, List.mem_cons, ih, find?, eq_comm, ← Path.same_iff]
    split
    · next h => simp [h]
    · next h => simp [h]

theorem documents_publish (findings : List Finding) :
  (s.publish p findings).documents
    = if p.components ∈ s.documents then s.documents else s.documents ++ [p.components]
  := by
  unfold documents
  induction s with
  | nil => rfl
  | cons e s ih =>
    obtain ⟨q, old⟩ := e
    rw [publish]
    by_cases h : q.same p = true
    · rw [if_pos h, List.map_cons, List.map_cons, if_pos]
      rw [← Path.same_iff.mp h]
      apply List.mem_cons_self
    · have hne : p.components ≠ q.components := by
        rw [ne_comm, ne_eq, ← Path.same_iff]
        apply h
      rw [if_neg h, List.map_cons, List.map_cons, ih]
      simp only [List.mem_cons, hne, false_or]
      split <;> rfl

theorem nodup_documents_publish (findings : List Finding) (h : s.documents.Nodup) :
  (s.publish p findings).documents.Nodup
  := by
  rw [documents_publish]
  split
  · apply h
  · next hp =>
    rw [← List.concat_eq_append]
    apply List.Nodup.concat hp h

theorem nodup_documents_clear (h : s.documents.Nodup) :
  (s.clear p).documents.Nodup
  := by
  apply List.Nodup.sublist _ h
  apply List.Sublist.map
  apply List.filter_sublist

/-- No operation makes a store hold a document twice. -/
theorem Operation.nodup_apply (o : Operation) (h : s.documents.Nodup) :
  (o.apply s).documents.Nodup
  := by
  cases o with
  | lint l p text =>
    rw [apply, DocumentStore.lint]
    split
    · apply nodup_documents_publish _ h
    · apply nodup_documents_clear h
  | publish p findings => apply nodup_documents_publish findings h
  | clear p => apply nodup_documents_clear h

/-! ### Several operations -/

/-- The store after some operations, at first empty. -/
def run (ops : List Operation) : DocumentStore := ops.foldl Operation.apply []

/-- The last of some operations that is on the document at a path. -/
def lastOn? (ops : List Operation) (p : Path) : Option Operation :=
  (ops.filter (·.path.same p)).getLast?

theorem find?_foldl_apply (ops : List Operation) :
  (ops.foldl Operation.apply s).find? p
    = (lastOn? ops p).elim (s.find? p) Operation.findings?
  := by
  induction ops generalizing s with
  | nil => rfl
  | cons o ops ih =>
    rw [List.foldl_cons, ih, o.find?_apply, lastOn?, lastOn?, List.filter_cons]
    split
    · next h =>
      rw [List.getLast?_cons]
      cases (ops.filter (·.path.same p)).getLast? <;> rfl
    · rfl

theorem nodup_foldl_apply (ops : List Operation) (h : s.documents.Nodup) :
  (ops.foldl Operation.apply s).documents.Nodup
  := by
  induction ops generalizing s with
  | nil => apply h
  | cons o ops ih => apply ih (o.nodup_apply h)

/-- After operations, a store holds of a document what the last operation on it has left. -/
theorem find?_run (ops : List Operation) :
  (run ops).find? p = (lastOn? ops p).bind Operation.findings?
  := by
  rw [run, find?_foldl_apply, find?]
  cases lastOn? ops p <;> rfl

/-- A store counts the documents of which it holds something. -/
theorem encard_eq_size (h : s.documents.Nodup) :
  {cs | ∃ p : Path, p.components = cs ∧ (s.find? p).isSome = true}.encard = s.size
  := by
  have hset : {cs | ∃ p : Path, p.components = cs ∧ (s.find? p).isSome = true}
      = s.documents.toFinset := by
    ext cs
    rw [List.coe_toFinset, Set.mem_ofPred_eq, Set.mem_ofPred_eq]
    constructor
    · rintro ⟨p, rfl, hp⟩
      apply mem_documents_iff.mpr hp
    · intro hcs
      obtain ⟨e, -, rfl⟩ := List.mem_map.mp hcs
      exact ⟨e.1, rfl, mem_documents_iff.mp hcs⟩
  rw [hset, Set.encard_coe_eq_coe_finsetCard, List.toFinset_card_of_nodup h, documents,
    List.length_map, size]

/-- Of two operations on different documents, one at most is on the document at a path. -/
theorem lastOn?_swap {a b : Operation} (h : a.path.components ≠ b.path.components)
    (before after : List Operation) (p : Path) :
  lastOn? (before ++ b :: a :: after) p = lastOn? (before ++ a :: b :: after) p
  := by
  have hone : ¬ (a.path.same p = true ∧ b.path.same p = true) := by
    rintro ⟨ha, hb⟩
    apply h
    rw [Path.same_iff.mp ha, Path.same_iff.mp hb]
  unfold lastOn?
  simp only [List.filter_append, List.filter_cons]
  rcases Decidable.not_and_iff_or_not.mp hone with ha | hb
  · simp only [if_neg ha]
  · simp only [if_neg hb]

/-- After any operations, a store holds of every document what the last operation on it has
left there, and nothing of a document without operations.  Its size is the number of the
documents of which the last operation has left something.  Two operations in a row on
different documents can change places: the store then holds the same of every document. -/
theorem run_holds_latest (ops : List Operation) :
  (∀ p, (run ops).find? p = (lastOn? ops p).bind Operation.findings?)
    ∧ {cs | ∃ p : Path, p.components = cs
        ∧ ((lastOn? ops p).bind Operation.findings?).isSome = true}.encard = (run ops).size
    ∧ ∀ before a b after, ops = before ++ a :: b :: after →
      a.path.components ≠ b.path.components →
      ∀ p, (run (before ++ b :: a :: after)).find? p = (run ops).find? p
  := by
  refine ⟨?_, ?_, ?_⟩
  · intro p
    apply find?_run
  · simp only [← find?_run]
    apply encard_eq_size
    apply nodup_foldl_apply
    apply List.nodup_nil
  · rintro before a b after rfl h p
    rw [find?_run, find?_run, lastOn?_swap h]

/-- A document that was checked is held under every spelling of its path, and one that was
published is dropped by a linter that does not apply to it. -/
theorem run_holds_latest_respelled :
  let l : Linter := { schema := ⟨⟨[], [], []⟩, .empty⟩ }
  let drop : Operation := .lint l (.ofText "x/y.txt".toList) []
  let publish : Operation := .publish (.ofText "x/y.txt".toList) []
  let check : Operation := .lint l (.ofText "x//y.sh/".toList) "#SBATCH".toList
  publish.path.components ≠ check.path.components
    ∧ (run [check, publish, drop]).find? (.ofText "x/./y.sh".toList)
      = (run [publish, check, drop]).find? (.ofText "x/./y.sh".toList)
    ∧ (run [publish, check, drop]).find? (.ofText "x/./y.sh".toList)
      = some (l.checkDocument "#SBATCH".toList)
    ∧ (run [publish, check, drop]).find? (.ofText "x/y.txt".toList) = none
  := by
  intro l drop publish check
  have hpaths : publish.path.components ≠ check.path.components := by decide
  obtain ⟨hlatest, -, hswap⟩ := run_holds_latest [publish, check, drop]
  refine ⟨hpaths, ?_, ?_, ?_⟩
  · apply hswap [] publish check [drop] rfl hpaths
  · rw [hlatest]
    rfl
  · rw [hlatest]
    rfl

end DocumentStore

end DirectiveLint
