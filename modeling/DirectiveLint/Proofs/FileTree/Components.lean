import DirectiveLint.Proofs.FileTree.Walk

/-!
# The place that a path names

The components of a path name a place, whatever lies there, and a path that leads somewhere leads
to this place, however it is written (`FileTree.target_eq_of_place`).  So a path whose components
are those of a directory and names behind them names the place of these names below the directory
(`FileTree.target_of_components`).
-/

namespace DirectiveLint.FileTree

variable {t : FileTree} {p q : Path} {base place : Place} {name : Bytes} {names : Place}

/-! ### Names -/

theorem IsName.componentOf? (h : IsName name) :
  Path.componentOf? name = some (.name name)
  := Path.componentOf?_eq_some_name_iff.mpr ⟨rfl, h.ne_nil, h.ne_here, h.ne_parent⟩

/-- Below a path that is written, names are further components. -/
theorem components_below (hp : p.bytes ≠ []) (hnames : ∀ name ∈ names, IsName name) :
  (below p names).components = p.components ++ names.map .name
  := by
  induction names generalizing p with
  | nil =>
    rw [List.map_nil, List.append_nil]
    rfl
  | cons name names ih =>
    obtain ⟨hname, hmore⟩ := List.forall_mem_cons.mp hnames
    change (below (p.join ⟨name⟩) names).components = _
    rw [ih (Path.bytes_join_ne_nil hp) hmore,
      Path.components_join_of_isName hp hname.slash_not_mem hname.componentOf?,
      List.append_assoc]
    rfl

/-! ### Components -/

/-- The place that a component names from a place. -/
def goTo (place : Place) : Component → Place
  | .root => []
  | .here => place
  | .parent => place.dropLast
  | .name name => place ++ [name]

/-- The place that a path names. -/
def target (t : FileTree) (p : Path) : Place := p.components.foldl goTo t.workingPlace

/-- A piece of a path that leads somewhere leads to the place that its component names. -/
theorem elim_componentOf?_of_step {piece : Bytes} (h : t.step base piece = .ok place) :
  (Path.componentOf? piece).elim base (goTo base) = place
  := by
  unfold step at h
  unfold Path.componentOf?
  grind [goTo]

theorem foldl_goTo_of_pieces {parts : List Bytes} (h : parts.foldlM t.step base = .ok place) :
  (parts.filterMap Path.componentOf?).foldl goTo base = place
  := by
  induction parts generalizing base with
  | nil => apply Except.ok.inj h
  | cons piece parts ih =>
    rw [List.foldlM_cons, bind_eq_ok_iff] at h
    obtain ⟨next, hnext, hmore⟩ := h
    have hstep := elim_componentOf?_of_step hnext
    rw [List.filterMap_cons]
    cases hpiece : Path.componentOf? piece with
    | none =>
      rw [hpiece] at hstep
      obtain rfl : base = next := hstep
      apply ih hmore
    | some c =>
      rw [hpiece] at hstep
      obtain rfl : goTo base c = next := hstep
      apply ih hmore

/-- A path leads to the place that it names. -/
theorem target_eq_of_place (h : t.place p = .ok place) :
  t.target p = place
  := by
  have hanchor : p.anchor.foldl goTo t.workingPlace
      = if p.isAbsolute then [] else t.workingPlace := by
    unfold Path.anchor
    split
    · rfl
    · split <;> rfl
  rw [target, Path.components_eq, List.foldl_append, hanchor]
  apply foldl_goTo_of_pieces (place_eq_ok_iff.mp h).2

theorem foldl_goTo_names (names base : Place) :
  (names.map .name).foldl goTo base = base ++ names
  := by
  induction names generalizing base with
  | nil => apply (List.append_nil base).symm
  | cons name names ih =>
    rw [List.map_cons, List.foldl_cons, ih, goTo, List.append_assoc]
    rfl

/-- A path that goes on with names behind another one names their place below that one's. -/
theorem target_of_components (h : q.components = p.components ++ names.map .name) :
  t.target q = t.target p ++ names
  := by
  rw [target, h, List.foldl_append, foldl_goTo_names]
  rfl

/-! ### Visible files -/

/-- One path leads to a directory and the other one names a file below it, and none of the names
between them is a text that starts with a dot. -/
structure IsVisibleBelow (t : FileTree) (p q : Path) : Prop where
  /-- The upper path leads to a directory. -/
  isDirectory : t.isDirectory p = true
  /-- There is a file at the place that the lower path names. -/
  isFile : ∃ content, t.entry? (t.target q) = some (.file content)
  /-- The lower path goes on from the upper one with names that are not hidden: one that starts
  with a dot does not consist of the bytes of a text. -/
  components : ∃ names, names ≠ [] ∧ q.components = p.components ++ names.map .name
    ∧ ∀ name ∈ names, name.head? = some dot → ∀ text, name ≠ utf8 text

/-- What is found below a directory is visible there. -/
theorem WellFormed.isVisibleBelow_of_mem (ht : t.WellFormed) (hp : t.listing p = .ok base)
    (h : q ∈ t.filesBelow p base) :
  t.IsVisibleBelow p q
  := by
  obtain ⟨rights, hplace, -⟩ := listing_eq_ok_iff.mp hp
  obtain ⟨names, content, hmem, hne, hvisible, rfl⟩ := mem_filesBelow_iff.mp h
  have hcomponents : (below p names).components = p.components ++ names.map .name := by
    apply components_below (bytes_ne_nil_of_place hplace)
    intro name hname
    apply ht.isName _ hmem name (List.mem_append_right base hname)
  constructor
  · apply isDirectory_of_listing hp
  · rw [target_of_components hcomponents, target_eq_of_place hplace]
    use content
    apply ht.entry?_of_mem (List.append_ne_nil_of_right_ne_nil base hne) hmem
  · simp only [isHidden_eq_false_iff] at hvisible
    exact ⟨names, hne, hcomponents, hvisible⟩

/-- What is visible below a directory is found there, maybe in another spelling. -/
theorem IsVisibleBelow.exists_mem (ht : t.WellFormed) (h : t.IsVisibleBelow p q)
    (hp : t.listing p = .ok base) :
  ∃ r ∈ t.filesBelow p base, r.components = q.components
  := by
  obtain ⟨names, hne, hcomponents, hvisible⟩ := h.components
  obtain ⟨content, hfile⟩ := h.isFile
  obtain ⟨rights, hplace, -⟩ := listing_eq_ok_iff.mp hp
  have hmem : (base ++ names, .file content) ∈ t.entries := by
    rw [target_of_components hcomponents, target_eq_of_place hplace] at hfile
    apply mem_entries (List.append_ne_nil_of_right_ne_nil base hne) hfile
  use below p names
  constructor
  · simp only [← isHidden_eq_false_iff] at hvisible
    exact mem_filesBelow_iff.mpr ⟨names, content, hmem, hne, hvisible, rfl⟩
  · rw [hcomponents]
    apply components_below (bytes_ne_nil_of_place hplace)
    intro name hname
    apply ht.isName _ hmem name (List.mem_append_right base hname)

/-! ### The order of the entries -/

section Order

variable {t' : FileTree} (hentries : t'.entries.Perm t.entries)

include hentries

theorem entry?_of_perm (h : (t.entries.map Prod.fst).Nodup) (place : Place) :
  t'.entry? place = t.entry? place
  := by
  have h' : (t'.entries.map Prod.fst).Nodup := (hentries.map Prod.fst).nodup_iff.mpr h
  by_cases hne : place = []
  · unfold entry?
    rw [if_pos hne, if_pos hne]
  · apply Option.ext
    intro entry
    constructor
    · intro hentry
      apply entry?_of_nodup h hne (hentries.mem_iff.mp (mem_entries hne hentry))
    · intro hentry
      apply entry?_of_nodup h' hne (hentries.mem_iff.mpr (mem_entries hne hentry))

/-- Entries of a tree in another order are those of a tree. -/
theorem WellFormed.of_perm (ht : t.WellFormed) :
  t'.WellFormed
  := by
  constructor
  · apply (hentries.map Prod.fst).nodup_iff.mpr ht.nodup
  · intro e he
    apply ht.isName e (hentries.mem_iff.mp he)
  · intro place name entry hmem
    obtain ⟨rights, hparent⟩ := ht.parent place name entry (hentries.mem_iff.mp hmem)
    use rights
    rw [entry?_of_perm hentries ht.nodup, hparent]

variable (ht : t.WellFormed) (hworking : t'.workingPlace = t.workingPlace) (p : Path)

include ht hworking

theorem WellFormed.place_of_perm :
  t'.place p = t.place p
  := by
  have hstep : t'.step = t.step := by
    funext place piece
    rw [step, step, entry?_of_perm hentries ht.nodup]
  rw [FileTree.place, FileTree.place, hstep, hworking]

/-- What a path leads to does not depend on the order of the entries. -/
theorem WellFormed.find_of_perm :
  t'.find p = t.find p
  := by
  simp only [find, ht.place_of_perm hentries hworking, entry?_of_perm hentries ht.nodup]

theorem WellFormed.listing_of_perm :
  t'.listing p = t.listing p
  := by
  simp only [listing, ht.place_of_perm hentries hworking, entry?_of_perm hentries ht.nodup]

end Order

end DirectiveLint.FileTree
