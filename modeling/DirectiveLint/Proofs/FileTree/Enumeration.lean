import DirectiveLint.Proofs.FileTree.Components

/-!
# Going through directories

`FileTree.Walk t p order found` says which files are found by going through the directory at a
path: its entries are taken in some order, hidden ones are left out, files are put down and
directories are listed and gone through in the same way, each in an order of its own.  Whatever the
orders are, the files that are found are the visible ones below the path (`FileTree.Walk.mem_iff`),
and a directory can be gone through exactly if it and the visible ones below it can be listed
(`FileTree.WellFormed.exists_walk_iff`).
-/

namespace DirectiveLint.FileTree

variable {t t' : FileTree} {p q : Path} {base base' place : Place} {name : Bytes} {names : Place}
  {entry : FileEntry} {order : List (Bytes × FileEntry)} {found : List Path}

/-- What lies in a directory, with the names there. -/
def children (t : FileTree) (base : Place) : List (Bytes × FileEntry) :=
  t.entries.filterMap fun (place, entry) =>
    if place.dropLast = base then place.getLast?.map (·, entry) else none

/-- The path leads to a directory that can be listed, with these entries in some order. -/
def Lists (t : FileTree) (p : Path) (order : List (Bytes × FileEntry)) : Prop :=
  ∃ base, t.listing p = .ok base ∧ order.Perm (t.children base)

/-- Files that are found by going through some entries of the directory at a path. -/
inductive Walk (t : FileTree) : Path → List (Bytes × FileEntry) → List Path → Prop where
  /-- There are no entries left. -/
  | done {p : Path} : Walk t p [] []
  /-- A hidden entry is left out. -/
  | hidden {p : Path} {name : Bytes} {entry : FileEntry} {rest : List (Bytes × FileEntry)}
      {found : List Path} (hname : isHidden name = true) (hrest : Walk t p rest found) :
    Walk t p ((name, entry) :: rest) found
  /-- A file is put down under its path. -/
  | file {p : Path} {name : Bytes} {content : FileContent} {rest : List (Bytes × FileEntry)}
      {found : List Path} (hname : isHidden name = false) (hrest : Walk t p rest found) :
    Walk t p ((name, .file content) :: rest) (p.join ⟨name⟩ :: found)
  /-- A directory is listed and gone through before the rest. -/
  | directory {p : Path} {name : Bytes} {rights : DirectoryRights}
      {order rest : List (Bytes × FileEntry)} {inside found : List Path}
      (hname : isHidden name = false) (hlists : t.Lists (p.join ⟨name⟩) order)
      (hinside : Walk t (p.join ⟨name⟩) order inside) (hrest : Walk t p rest found) :
    Walk t p ((name, .directory rights) :: rest) (inside ++ found)

/-! ### Entries of a directory -/

theorem mem_children_iff :
  (name, entry) ∈ t.children base ↔ (base ++ [name], entry) ∈ t.entries
  := by
  unfold children
  rw [List.mem_filterMap]
  constructor
  · rintro ⟨⟨place, entry'⟩, hmem, h⟩
    obtain ⟨hbase, hlast⟩ := Option.ite_none_right_eq_some.mp h
    obtain ⟨name', hname', heq⟩ := Option.map_eq_some_iff.mp hlast
    obtain ⟨rfl, rfl⟩ := Prod.mk.inj heq
    obtain ⟨rest, rfl⟩ := List.getLast?_eq_some_iff.mp hname'
    rw [← hbase, List.dropLast_concat]
    apply hmem
  · intro h
    use (base ++ [name], entry), h
    simp

theorem WellFormed.entry?_child (ht : t.WellFormed) (h : (name, entry) ∈ t.children base) :
  t.entry? (base ++ [name]) = some entry
  := ht.entry?_of_mem (List.concat_ne_nil name base) (mem_children_iff.mp h)

theorem WellFormed.isName_child (ht : t.WellFormed) (h : (name, entry) ∈ t.children base) :
  IsName name
  := ht.isName _ (mem_children_iff.mp h) name List.mem_concat_self

/-- What lies deeper below a directory lies in a directory there. -/
theorem WellFormed.hasDirectory_child (ht : t.WellFormed) {next : Bytes}
    (h : (base ++ name :: next :: names, entry) ∈ t.entries) :
  t.HasDirectory (base ++ [name])
  := by
  rw [← List.singleton_append, ← List.append_assoc] at h
  apply ht.hasDirectory_of_mem h

/-- What lies somewhere below a directory lies in one of its entries. -/
theorem WellFormed.exists_child (ht : t.WellFormed)
    (h : (base ++ name :: names, entry) ∈ t.entries) :
  ∃ child, (name, child) ∈ t.children base
  := by
  simp only [mem_children_iff]
  cases names with
  | nil => exact ⟨entry, h⟩
  | cons next names =>
    obtain ⟨rights, hrights⟩ := ht.hasDirectory_child h
    exact ⟨_, mem_entries (List.concat_ne_nil name base) hrights⟩

/-- Nothing lies below a file. -/
theorem WellFormed.names_eq_nil (ht : t.WellFormed) {content : FileContent}
    (hfile : (name, .file content) ∈ t.children base)
    (h : (base ++ name :: names, entry) ∈ t.entries) :
  names = []
  := by
  cases names with
  | nil => rfl
  | cons next names =>
    obtain ⟨rights, hrights⟩ := ht.hasDirectory_child h
    rw [ht.entry?_child hfile, Option.some.injEq] at hrights
    contradiction

/-- A directory that is listed under its name below the path of another one lies in that one. -/
theorem WellFormed.eq_of_listing_join (ht : t.WellFormed) (hp : t.listing p = .ok base)
    (h : (name, entry) ∈ t.children base) (hname : t.listing (p.join ⟨name⟩) = .ok base') :
  base' = base ++ [name]
  := by
  obtain ⟨-, hplace, -⟩ := listing_eq_ok_iff.mp hp
  obtain ⟨-, hplace', -⟩ := listing_eq_ok_iff.mp hname
  have hcomponents : (below p [name]).components = p.components ++ [name].map .name := by
    apply components_below (bytes_ne_nil_of_place hplace)
    rw [List.forall_mem_singleton]
    apply ht.isName_child h
  rw [← target_eq_of_place hplace', ← target_eq_of_place hplace]
  apply target_of_components hcomponents

/-! ### The files that a walk finds -/

/-- The files below a directory that lie under one of some names in it. -/
def FoundUnder (t : FileTree) (p : Path) (base : Place) (name : Bytes) (q : Path) : Prop :=
  ∃ names content, (base ++ name :: names, .file content) ∈ t.entries
    ∧ (∀ n ∈ name :: names, isHidden n = false) ∧ below p (name :: names) = q

/-- The visible files below a directory lie under the names of its entries. -/
theorem WellFormed.mem_filesBelow_iff_exists_name (ht : t.WellFormed)
    (horder : order.Perm (t.children base)) :
  q ∈ t.filesBelow p base ↔ ∃ name ∈ order.map Prod.fst, t.FoundUnder p base name q
  := by
  rw [mem_filesBelow_iff]
  constructor
  · rintro ⟨names, content, hmem, hne, hvisible, hq⟩
    obtain ⟨name, names, rfl⟩ := List.exists_cons_of_ne_nil hne
    obtain ⟨child, hchild⟩ := ht.exists_child hmem
    use name, List.mem_map_of_mem (horder.mem_iff.mpr hchild)
    exact ⟨names, content, hmem, hvisible, hq⟩
  · rintro ⟨name, -, names, content, hmem, hvisible, hq⟩
    exact ⟨name :: names, content, hmem, List.cons_ne_nil name names, hvisible, hq⟩

theorem not_foundUnder_of_isHidden (h : isHidden name = true) :
  ¬ t.FoundUnder p base name q
  := by
  rintro ⟨names, content, -, hvisible, -⟩
  rw [hvisible name List.mem_cons_self] at h
  contradiction

theorem WellFormed.foundUnder_file_iff (ht : t.WellFormed) {content : FileContent}
    (hmem : (name, .file content) ∈ t.children base) (hname : isHidden name = false) :
  t.FoundUnder p base name q ↔ q = p.join ⟨name⟩
  := by
  constructor
  · rintro ⟨names, content', hfile, -, rfl⟩
    obtain rfl := ht.names_eq_nil hmem hfile
    rfl
  · rintro rfl
    refine ⟨[], content, mem_children_iff.mp hmem, ?_, rfl⟩
    rw [List.forall_mem_singleton]
    apply hname

theorem WellFormed.foundUnder_directory_iff (ht : t.WellFormed) {rights : DirectoryRights}
    (hmem : (name, .directory rights) ∈ t.children base) (hname : isHidden name = false) :
  t.FoundUnder p base name q ↔ q ∈ t.filesBelow (p.join ⟨name⟩) (base ++ [name])
  := by
  rw [mem_filesBelow_iff]
  constructor
  · rintro ⟨names, content, hfile, hvisible, hq⟩
    refine ⟨names, content, ?_, ?_, (List.forall_mem_cons.mp hvisible).2, hq⟩
    · rw [List.append_assoc]
      apply hfile
    · rintro rfl
      have hentry := ht.entry?_child (mem_children_iff.mpr hfile)
      rw [ht.entry?_child hmem, Option.some.injEq] at hentry
      contradiction
  · rintro ⟨names, content, hfile, -, hvisible, hq⟩
    rw [List.append_assoc] at hfile
    exact ⟨names, content, hfile, List.forall_mem_cons.mpr ⟨hname, hvisible⟩, hq⟩

/-- Going through some entries of a directory finds the visible files under their names. -/
theorem Walk.mem_iff_exists_name (ht : t.WellFormed) (h : t.Walk p order found)
    (hp : t.listing p = .ok base) (horder : ∀ e ∈ order, e ∈ t.children base) :
  q ∈ found ↔ ∃ name ∈ order.map Prod.fst, t.FoundUnder p base name q
  := by
  induction h generalizing base with
  | done => simp
  | hidden hname hrest ih =>
    obtain ⟨-, hmore⟩ := List.forall_mem_cons.mp horder
    rw [ih hp hmore, List.map_cons, List.exists_mem_cons_iff,
      or_iff_right (not_foundUnder_of_isHidden hname)]
  | file hname hrest ih =>
    obtain ⟨hmem, hmore⟩ := List.forall_mem_cons.mp horder
    rw [List.mem_cons, ih hp hmore, List.map_cons, List.exists_mem_cons_iff,
      ht.foundUnder_file_iff hmem hname]
  | directory hname hlists hinside hrest ihinside ih =>
    obtain ⟨hmem, hmore⟩ := List.forall_mem_cons.mp horder
    obtain ⟨base', hbase', horder'⟩ := hlists
    obtain rfl := ht.eq_of_listing_join hp hmem hbase'
    rw [List.mem_append, ih hp hmore, List.map_cons, List.exists_mem_cons_iff,
      ihinside hbase' fun e => horder'.mem_iff.mp, ht.foundUnder_directory_iff hmem hname,
      ht.mem_filesBelow_iff_exists_name horder']

/-- Whatever the orders are in which directories are listed, the visible files are found. -/
theorem Walk.mem_iff (ht : t.WellFormed) (h : t.Walk p order found)
    (hp : t.listing p = .ok base) (horder : order.Perm (t.children base)) :
  q ∈ found ↔ q ∈ t.filesBelow p base
  := by
  rw [ht.mem_filesBelow_iff_exists_name horder]
  apply h.mem_iff_exists_name ht hp fun e => horder.mem_iff.mp

/-! ### Directories that can be gone through -/

theorem listAlong_cons (hp : t.listing p = .ok base) :
  t.listAlong p (name :: names) = t.listAlong (p.join ⟨name⟩) names
  := by rw [listAlong, hp]

/-- If the directories below a directory can be listed, so can those below one in it. -/
theorem ListsBelow.child (h : t.ListsBelow p base) (hp : t.listing p = .ok base)
    (hname : isHidden name = false) :
  t.ListsBelow (p.join ⟨name⟩) (base ++ [name])
  := by
  intro names rights hmem hne hvisible
  rw [← listAlong_cons hp]
  rw [List.append_assoc] at hmem
  apply h (name :: names) rights hmem (List.cons_ne_nil name names)
  rw [List.forall_mem_cons]
  exact ⟨hname, hvisible⟩

theorem ListsBelow.exists_listing (h : t.ListsBelow p base) (hp : t.listing p = .ok base)
    {rights : DirectoryRights} (hmem : (name, .directory rights) ∈ t.children base)
    (hname : isHidden name = false) :
  ∃ place, t.listing (p.join ⟨name⟩) = .ok place
  := by
  obtain ⟨place, hplace⟩ := h [name] rights (mem_children_iff.mp hmem) (List.cons_ne_nil name [])
    (List.forall_mem_singleton.mpr hname)
  rw [listAlong_cons hp] at hplace
  exact ⟨place, hplace⟩

/-- The number of names in the longest place of a tree. -/
def depth (t : FileTree) : Nat := (t.entries.map fun e => e.1.length).max?.getD 0

theorem length_lt_depth (h : (name, entry) ∈ t.children base) :
  base.length < t.depth
  := by
  have hlength : (base ++ [name]).length ≤ t.depth := by
    apply List.le_max?_getD_of_mem
    rw [List.mem_map]
    exact ⟨_, mem_children_iff.mp h, rfl⟩
  rw [List.length_append, List.length_singleton] at hlength
  apply hlength

/-- Entries of a directory can be gone through: each listing leads deeper into the tree. -/
theorem WellFormed.exists_walk_of_children (ht : t.WellFormed) (hp : t.listing p = .ok base)
    (hlists : t.ListsBelow p base) (horder : ∀ e ∈ order, e ∈ t.children base) :
  ∃ found, t.Walk p order found
  := by
  induction hlevels : t.depth - base.length using Nat.strong_induction_on
    generalizing p base order with
  | _ levels ihlevels =>
  induction order with
  | nil => exact ⟨[], .done⟩
  | cons e order ih =>
    obtain ⟨hmem, hmore⟩ := List.forall_mem_cons.mp horder
    obtain ⟨found, hfound⟩ := ih hmore
    obtain ⟨name, entry⟩ := e
    cases hname : isHidden name with
    | true => exact ⟨found, .hidden hname hfound⟩
    | false =>
      cases entry with
      | file content => exact ⟨_, .file hname hfound⟩
      | directory rights =>
        obtain ⟨base', hbase'⟩ := hlists.exists_listing hp hmem hname
        obtain rfl := ht.eq_of_listing_join hp hmem hbase'
        have hfewer : t.depth - (base ++ [name]).length < levels := by
          have hlt := length_lt_depth hmem
          rw [List.length_append, List.length_singleton]
          omega
        obtain ⟨inside, hinside⟩ :=
          ihlevels _ hfewer hbase' (hlists.child hp hname) (fun _ => id) rfl
        exact ⟨_, .directory hname ⟨_, hbase', .rfl⟩ hinside hfound⟩

/-- The visible directories below one that is gone through can be listed. -/
theorem Walk.exists_listAlong (ht : t.WellFormed) (h : t.Walk p order found)
    (hp : t.listing p = .ok base) (horder : ∀ e ∈ order, e ∈ t.children base)
    (hname : name ∈ order.map Prod.fst) {rights : DirectoryRights}
    (hmem : (base ++ name :: names, .directory rights) ∈ t.entries)
    (hvisible : ∀ n ∈ name :: names, isHidden n = false) :
  ∃ place, t.listAlong p (name :: names) = .ok place
  := by
  induction h generalizing base name names with
  | done => contradiction
  | hidden hhidden hrest ih =>
    obtain ⟨-, hmore⟩ := List.forall_mem_cons.mp horder
    rcases List.mem_cons.mp hname with rfl | hname
    · rw [hvisible _ List.mem_cons_self] at hhidden
      contradiction
    · apply ih hp hmore hname hmem hvisible
  | file hshown hrest ih =>
    obtain ⟨hfile, hmore⟩ := List.forall_mem_cons.mp horder
    rcases List.mem_cons.mp hname with rfl | hname
    · obtain rfl := ht.names_eq_nil hfile hmem
      have hentry := ht.entry?_child (mem_children_iff.mpr hmem)
      rw [ht.entry?_child hfile, Option.some.injEq] at hentry
      contradiction
    · apply ih hp hmore hname hmem hvisible
  | directory hshown hlists hinside hrest ihinside ih =>
    obtain ⟨hdirectory, hmore⟩ := List.forall_mem_cons.mp horder
    rcases List.mem_cons.mp hname with rfl | hname
    · obtain ⟨base', hbase', horder'⟩ := hlists
      obtain rfl := ht.eq_of_listing_join hp hdirectory hbase'
      rw [listAlong_cons hp]
      cases names with
      | nil => exact ⟨_, hbase'⟩
      | cons next names =>
        rw [← List.singleton_append, ← List.append_assoc] at hmem
        obtain ⟨child, hchild⟩ := ht.exists_child hmem
        apply ihinside hbase' (fun e => horder'.mem_iff.mp) _ hmem
          (List.forall_mem_cons.mp hvisible).2
        apply List.mem_map_of_mem (horder'.mem_iff.mpr hchild)
    · apply ih hp hmore hname hmem hvisible

/-- A directory can be gone through, in whatever order it is listed, exactly if it and the visible
ones below it can be listed. -/
theorem WellFormed.exists_walk_iff (ht : t.WellFormed) :
  (∃ order found, t.Lists p order ∧ t.Walk p order found) ↔ ∃ found, t.visibleFiles p = .ok found
  := by
  simp only [visibleFiles_eq_ok_iff]
  constructor
  · rintro ⟨order, found, ⟨base, hp, horder⟩, hwalk⟩
    refine ⟨_, base, hp, ?_, rfl⟩
    intro names rights hmem hne hvisible
    obtain ⟨name, names, rfl⟩ := List.exists_cons_of_ne_nil hne
    obtain ⟨child, hchild⟩ := ht.exists_child hmem
    apply hwalk.exists_listAlong ht hp (fun e => horder.mem_iff.mp) _ hmem hvisible
    apply List.mem_map_of_mem (horder.mem_iff.mpr hchild)
  · rintro ⟨_, base, hp, hlists, rfl⟩
    obtain ⟨found, hfound⟩ := ht.exists_walk_of_children hp hlists fun _ => id
    exact ⟨_, found, ⟨base, hp, .rfl⟩, hfound⟩

/-! ### The order of the entries -/

section Order

variable (hentries : t'.entries.Perm t.entries) (ht : t.WellFormed)
  (hworking : t'.workingPlace = t.workingPlace)

include hentries ht hworking

theorem Lists.of_perm (h : t.Lists p order) :
  t'.Lists p order
  := by
  obtain ⟨base, hp, horder⟩ := h
  use base, (ht.listing_of_perm hentries hworking p).trans hp
  exact horder.trans (hentries.filterMap _).symm

/-- What is found does not depend on the order of the entries. -/
theorem Walk.of_perm (h : t.Walk p order found) :
  t'.Walk p order found
  := by
  induction h with
  | done => apply Walk.done
  | hidden hname _ ih => apply Walk.hidden hname ih
  | file hname _ ih => apply Walk.file hname ih
  | directory hname hlists _ _ ihinside ih =>
    apply Walk.directory hname (hlists.of_perm hentries ht hworking) ihinside ih

end Order

end DirectiveLint.FileTree
