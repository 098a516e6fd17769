import DirectiveLint.FileTree
import DirectiveLint.Proofs.Path.Join
import DirectiveLint.Proofs.Text.Utf8
import Mathlib.Data.List.Induction
import Mathlib.Data.List.Nodup

/-!
# Files below a directory

`FileTree.WellFormed` says that the entries of a tree are those of files and directories: one
at each place, under names that can stand in a path, and each in a directory.  The files that are
visible below a directory are listed, under their paths, by `FileTree.filesBelow`; all of them are
found if the directory and the visible ones below it can be listed
(`FileTree.visibleFiles_eq_ok_iff`).
-/

namespace DirectiveLint.FileTree

variable {t : FileTree} {p : Path} {base place : Place} {name : Bytes} {names : Place}

/-! ### Trees of files and directories -/

/-- There is a directory at a place. -/
def HasDirectory (t : FileTree) (place : Place) : Prop :=
  ∃ rights, t.entry? place = some (.directory rights)

instance (t : FileTree) (place : Place) : Decidable (t.HasDirectory place) :=
  match h : t.entry? place with
  | some (.directory rights) => .isTrue ⟨rights, h⟩
  | some (.file content) => .isFalse fun ⟨rights, hrights⟩ => by rw [h] at hrights; cases hrights
  | none => .isFalse fun ⟨rights, hrights⟩ => by rw [h] at hrights; cases hrights

theorem hasDirectory_root :
  t.HasDirectory []
  := ⟨{}, if_pos rfl⟩

/-- A name that a file or a directory can have. -/
structure IsName (name : Bytes) : Prop where
  /-- The name is not empty. -/
  ne_nil : name ≠ []
  /-- The name stands between slashes. -/
  slash_not_mem : slash ∉ name
  /-- There is no zero byte in the name. -/
  zero_not_mem : 0 ∉ name
  /-- The name is not the one of the directory itself. -/
  ne_here : name ≠ [dot]
  /-- The name is not the one of the directory above. -/
  ne_parent : name ≠ [dot, dot]
  /-- The name is not too long. -/
  length_le : name.length ≤ nameLimit

/-- The entries are those of a tree of files and directories. -/
structure WellFormed (t : FileTree) : Prop where
  /-- There is one entry at a place. -/
  nodup : (t.entries.map Prod.fst).Nodup
  /-- The places are made of names. -/
  isName : ∀ e ∈ t.entries, ∀ name ∈ e.1, IsName name
  /-- What is not at the root lies in a directory. -/
  parent : ∀ place name entry, (place ++ [name], entry) ∈ t.entries → t.HasDirectory place

instance (name : Bytes) : Decidable (IsName name) :=
  decidable_of_iff
    (name ≠ [] ∧ slash ∉ name ∧ 0 ∉ name ∧ name ≠ [dot] ∧ name ≠ [dot, dot]
      ∧ name.length ≤ nameLimit)
    ⟨fun h => ⟨h.1, h.2.1, h.2.2.1, h.2.2.2.1, h.2.2.2.2.1, h.2.2.2.2.2⟩,
      fun h => ⟨h.ne_nil, h.slash_not_mem, h.zero_not_mem, h.ne_here, h.ne_parent, h.length_le⟩⟩

theorem wellFormed_iff :
  t.WellFormed ↔ (t.entries.map Prod.fst).Nodup ∧ (∀ e ∈ t.entries, ∀ name ∈ e.1, IsName name)
    ∧ ∀ e ∈ t.entries, t.HasDirectory e.1.dropLast
  := by
  constructor
  · intro h
    refine ⟨h.nodup, h.isName, ?_⟩
    rintro ⟨place, entry⟩ hmem
    induction place using List.reverseRecOn with
    | nil => apply hasDirectory_root
    | append_singleton place name _ =>
      rw [List.dropLast_concat]
      apply h.parent place name entry hmem
  · rintro ⟨hnodup, hname, hparent⟩
    refine ⟨hnodup, hname, ?_⟩
    intro place name entry hmem
    have hdirectory := hparent _ hmem
    rw [List.dropLast_concat] at hdirectory
    apply hdirectory

instance (t : FileTree) : Decidable t.WellFormed := decidable_of_iff _ wellFormed_iff.symm

/-! ### What a path leads to -/

theorem find_eq_ok_iff {entry : FileEntry} :
  t.find p = .ok entry ↔ ∃ place, t.place p = .ok place ∧ t.entry? place = some entry
  := by
  unfold find
  split
  · next h => simp [h]
  · next place h =>
    rw [h]
    split
    · next h => simp [h]
    · next h => simp [h]

theorem toText_eq_ok_iff {content : FileContent} {text : Text} :
  content.toText = .ok text ↔ content = { text := some text }
  := by
  obtain ⟨written, read⟩ := content
  cases written <;> cases read <;> simp [FileContent.toText]

theorem readText_eq_ok_iff {text : Text} :
  t.readText p = .ok text ↔ t.find p = .ok (.file { text := some text })
  := by
  unfold readText
  split <;> simp_all [toText_eq_ok_iff]

theorem isFile_iff :
  t.isFile p = true ↔ ∃ content, t.find p = .ok (.file content)
  := by
  unfold isFile
  rcases t.find p with _ | ⟨_ | content⟩ <;> simp

theorem isDirectory_iff :
  t.isDirectory p = true ↔ ∃ rights, t.find p = .ok (.directory rights)
  := by
  unfold isDirectory
  rcases t.find p with _ | ⟨_ | content⟩ <;> simp

/-- What is a file is no directory. -/
theorem not_isDirectory_of_isFile (h : t.isFile p = true) :
  ¬ t.isDirectory p = true
  := by
  obtain ⟨content, hfile⟩ := isFile_iff.mp h
  rw [isDirectory_iff, hfile]
  simp

theorem listing_eq_ok_iff :
  t.listing p = .ok place
    ↔ ∃ rights, t.place p = .ok place ∧ t.entry? place = some (.directory rights)
      ∧ rights.list = true
  := by
  unfold listing
  split
  · next h => simp [h]
  · next found h =>
    rw [h, Except.ok.injEq]
    split
    · next hentry => grind
    · next hentry => grind
    · next rights hentry => grind

/-- What can be listed is a directory. -/
theorem isDirectory_of_listing (h : t.listing p = .ok place) :
  t.isDirectory p = true
  := by
  obtain ⟨rights, hplace, hentry, -⟩ := listing_eq_ok_iff.mp h
  rw [isDirectory_iff]
  exact ⟨rights, find_eq_ok_iff.mpr ⟨place, hplace, hentry⟩⟩

/-! ### Pieces of a path -/

theorem step_nil_eq_ok_iff :
  t.step place [] = .ok base ↔ t.HasDirectory place ∧ place = base
  := by
  unfold step HasDirectory
  split <;> simp_all

theorem defect?_eq_none_iff :
  p.defect? = none ↔ 0 ∉ p.bytes ∧ p.bytes ≠ [] ∧ p.bytes.length ≤ pathLimit
  := by
  unfold Path.defect?
  grind

theorem place_eq_ok_iff :
  t.place p = .ok place ↔ p.defect? = none
    ∧ (pieces slash p.bytes).foldlM t.step (if p.isAbsolute then [] else t.workingPlace)
      = .ok place
  := by
  unfold FileTree.place
  split
  · next h => simp [h]
  · next h => simp [h]

theorem bytes_ne_nil_of_place (h : t.place p = .ok place) :
  p.bytes ≠ []
  := (defect?_eq_none_iff.mp (place_eq_ok_iff.mp h).1).2.1

/-! ### Entries -/

theorem mem_entries {place : Place} {entry : FileEntry} (hne : place ≠ [])
    (h : t.entry? place = some entry) :
  (place, entry) ∈ t.entries
  := by
  unfold entry? at h
  rw [if_neg hne] at h
  obtain ⟨e, he, rfl⟩ := Option.map_eq_some_iff.mp h
  have hplace := List.find?_some he
  rw [decide_eq_true_iff] at hplace
  rw [← hplace]
  apply List.mem_of_find?_eq_some he

/-- What lies at a place is its only entry. -/
theorem entry?_of_nodup (h : (t.entries.map Prod.fst).Nodup) {place : Place} {entry : FileEntry}
    (hne : place ≠ []) (hmem : (place, entry) ∈ t.entries) :
  t.entry? place = some entry
  := by
  have hsome : (t.entry? place).isSome = true := by
    unfold entry?
    rw [if_neg hne, Option.isSome_map, List.find?_isSome]
    exact ⟨_, hmem, decide_eq_true rfl⟩
  obtain ⟨found, hfound⟩ := Option.isSome_iff_exists.mp hsome
  obtain ⟨-, rfl⟩ : place = place ∧ found = entry :=
    Prod.mk.inj (List.inj_on_of_nodup_map h (mem_entries hne hfound) hmem rfl)
  apply hfound

theorem WellFormed.entry?_of_mem (h : t.WellFormed) {place : Place} {entry : FileEntry}
    (hne : place ≠ []) (hmem : (place, entry) ∈ t.entries) :
  t.entry? place = some entry
  := entry?_of_nodup h.nodup hne hmem

/-- Every place on the way to an entry is a directory. -/
theorem WellFormed.hasDirectory_of_mem (h : t.WellFormed) {entry : FileEntry}
    (hmem : (base ++ name :: names, entry) ∈ t.entries) :
  t.HasDirectory base
  := by
  induction names using List.reverseRecOn generalizing entry with
  | nil => apply h.parent base name entry hmem
  | append_singleton names last ih =>
    rw [← List.cons_append, ← List.append_assoc] at hmem
    obtain ⟨rights, hparent⟩ := h.parent _ last entry hmem
    apply ih
    apply mem_entries _ hparent
    simp

/-! ### Visible entries -/

theorem isHidden_eq_false_iff :
  isHidden name = false ↔ (name.head? = some dot → ∀ text, name ≠ utf8 text)
  := by
  have hdot : ∀ text, (utf8 text).head? = some dot ↔ text.head? = some '.' :=
    fun text => head?_utf8_eq_some_iff (show '.'.toNat < 128 by decide)
  rw [isHidden, Option.any_eq_false]
  simp only [ofUtf8?_eq_some_iff, beq_eq_false_iff_ne]
  constructor
  · rintro h hhead text rfl
    apply h text rfl ((hdot text).mp hhead)
  · rintro h text rfl htext
    apply h ((hdot text).mpr htext) text rfl

theorem visibleNames?_eq_some_iff :
  visibleNames? base place = some names
    ↔ place = base ++ names ∧ names ≠ [] ∧ ∀ name ∈ names, isHidden name = false
  := by
  simp only [visibleNames?, Option.ite_none_right_eq_some, Bool.and_eq_true,
    List.isPrefixOf_iff_prefix, Bool.not_eq_true', List.isEmpty_eq_false_iff, List.any_eq_false,
    Bool.not_eq_true, Option.some.injEq]
  constructor
  · rintro ⟨⟨⟨⟨rest, rfl⟩, hne⟩, hhidden⟩, rfl⟩
    rw [List.drop_left] at hne hhidden ⊢
    exact ⟨rfl, hne, hhidden⟩
  · rintro ⟨rfl, hne, hhidden⟩
    rw [List.drop_left]
    exact ⟨⟨⟨List.prefix_append base names, hne⟩, hhidden⟩, rfl⟩

theorem mem_filterMap_visibleFile?_iff :
  names ∈ t.entries.filterMap (visibleFile? base)
    ↔ ∃ content, (base ++ names, .file content) ∈ t.entries ∧ names ≠ []
      ∧ ∀ name ∈ names, isHidden name = false
  := by
  rw [List.mem_filterMap]
  constructor
  · rintro ⟨⟨place, entry⟩, hmem, hnames⟩
    cases entry with
    | directory rights => contradiction
    | file content =>
      obtain ⟨rfl, hvisible⟩ := visibleNames?_eq_some_iff.mp hnames
      exact ⟨content, hmem, hvisible⟩
  · rintro ⟨content, hmem, hvisible⟩
    exact ⟨_, hmem, visibleNames?_eq_some_iff.mpr ⟨rfl, hvisible⟩⟩

theorem mem_filterMap_visibleDirectory?_iff :
  names ∈ t.entries.filterMap (visibleDirectory? base)
    ↔ ∃ rights, (base ++ names, .directory rights) ∈ t.entries ∧ names ≠ []
      ∧ ∀ name ∈ names, isHidden name = false
  := by
  rw [List.mem_filterMap]
  constructor
  · rintro ⟨⟨place, entry⟩, hmem, hnames⟩
    cases entry with
    | directory rights =>
      obtain ⟨rfl, hvisible⟩ := visibleNames?_eq_some_iff.mp hnames
      exact ⟨rights, hmem, hvisible⟩
    | file content => contradiction
  · rintro ⟨rights, hmem, hvisible⟩
    exact ⟨_, hmem, visibleNames?_eq_some_iff.mpr ⟨rfl, hvisible⟩⟩

theorem mem_filesBelow_iff {q : Path} :
  q ∈ t.filesBelow p base ↔ ∃ names content, (base ++ names, .file content) ∈ t.entries
    ∧ names ≠ [] ∧ (∀ name ∈ names, isHidden name = false) ∧ below p names = q
  := by
  simp only [filesBelow, List.mem_map, mem_filterMap_visibleFile?_iff]
  constructor
  · rintro ⟨names, ⟨content, hmem, hne, hvisible⟩, hq⟩
    exact ⟨names, content, hmem, hne, hvisible, hq⟩
  · rintro ⟨names, content, hmem, hne, hvisible, hq⟩
    exact ⟨names, ⟨content, hmem, hne, hvisible⟩, hq⟩

/-- The directories below a place that are not hidden can be listed under a path, and those on the
way to them. -/
def ListsBelow (t : FileTree) (p : Path) (base : Place) : Prop :=
  ∀ names rights, (base ++ names, .directory rights) ∈ t.entries → names ≠ [] →
    (∀ name ∈ names, isHidden name = false) → ∃ place, t.listAlong p names = .ok place

theorem visibleFiles_eq_ok_iff {found : List Path} :
  t.visibleFiles p = .ok found
    ↔ ∃ base, t.listing p = .ok base ∧ t.ListsBelow p base ∧ t.filesBelow p base = found
  := by
  have hlists : ∀ base, t.ListsBelow p base
      ↔ ∃ places, (t.entries.filterMap (visibleDirectory? base)).mapM (t.listAlong p)
        = .ok places := by
    intro base
    rw [isOk_mapM_iff]
    simp only [mem_filterMap_visibleDirectory?_iff, ListsBelow]
    constructor
    · rintro h names ⟨rights, hmem, hne, hvisible⟩
      apply h names rights hmem hne hvisible
    · intro h names rights hmem hne hvisible
      apply h names ⟨rights, hmem, hne, hvisible⟩
  simp only [visibleFiles, bind_eq_ok_iff, Except.ok.injEq, hlists]
  constructor
  · rintro ⟨base, hbase, places, hplaces, hfound⟩
    exact ⟨base, hbase, ⟨places, hplaces⟩, hfound⟩
  · rintro ⟨base, hbase, ⟨places, hplaces⟩, hfound⟩
    exact ⟨base, hbase, places, hplaces, hfound⟩

end DirectiveLint.FileTree
