import DirectiveLint.Proofs.FileTree.Components
import DirectiveLint.Proofs.PathSet.Ascending
import DirectiveLint.Report

/-!
# Files to check

Each of some paths stands for files if it is the path of a file, or that of a directory that can be
gone through (`isOk_scriptsAt_iff`), and files are collected if each path stands for some.  They
come in ascending order, and each of them is a file of the tree.
-/

namespace DirectiveLint

variable {t : FileTree} {l : Linter} {allFiles : Bool} {inputs : List Path} {p q : Path}
  {found : List Path} {scripts : PathSet} {e : CollectError}

theorem scriptsAt_of_isFile (h : t.isFile p = true) :
  scriptsAt t l allFiles p = .ok [p]
  := by
  obtain ⟨content, hfile⟩ := FileTree.isFile_iff.mp h
  rw [scriptsAt, hfile]

theorem scriptsAt_of_visibleFiles {visible : List Path} (h : t.visibleFiles p = .ok visible) :
  scriptsAt t l allFiles p = .ok (visible.filter fun q => allFiles || l.appliesTo q)
  := by
  obtain ⟨base, hp, -⟩ := FileTree.visibleFiles_eq_ok_iff.mp h
  obtain ⟨rights, hdirectory⟩ := FileTree.isDirectory_iff.mp (FileTree.isDirectory_of_listing hp)
  rw [scriptsAt, hdirectory]
  dsimp only
  rw [h]

theorem scriptsAt_eq_ok_iff :
  scriptsAt t l allFiles p = .ok found
    ↔ t.isFile p = true ∧ [p] = found
      ∨ ∃ visible, t.visibleFiles p = .ok visible
        ∧ visible.filter (fun q => allFiles || l.appliesTo q) = found
  := by
  constructor
  · intro h
    unfold scriptsAt at h
    split at h
    · right
      split at h
      · next visible hvisible => exact ⟨visible, hvisible, Except.ok.inj h⟩
      · contradiction
    · next content hfile => exact .inl ⟨FileTree.isFile_iff.mpr ⟨content, hfile⟩, Except.ok.inj h⟩
    · contradiction
  · rintro (⟨hfile, rfl⟩ | ⟨visible, hvisible, rfl⟩)
    · apply scriptsAt_of_isFile hfile
    · apply scriptsAt_of_visibleFiles hvisible

/-- A path stands for files if it leads to a file, or to a directory that can be gone through. -/
theorem isOk_scriptsAt_iff :
  (∃ found, scriptsAt t l allFiles p = .ok found)
    ↔ t.isFile p = true ∨ ∃ visible, t.visibleFiles p = .ok visible
  := by
  simp only [scriptsAt_eq_ok_iff]
  constructor
  · rintro ⟨found, ⟨hfile, -⟩ | ⟨visible, hvisible, -⟩⟩
    · exact .inl hfile
    · exact .inr ⟨visible, hvisible⟩
  · rintro (hfile | ⟨visible, hvisible⟩)
    · exact ⟨_, .inl ⟨hfile, rfl⟩⟩
    · exact ⟨_, .inr ⟨visible, hvisible, rfl⟩⟩

/-- What can be wrong with a path: there is nothing, or a directory that cannot be gone through. -/
theorem scriptsAt_eq_error_iff :
  scriptsAt t l allFiles p = .error e
    ↔ (¬ ∃ entry, t.find p = .ok entry) ∧ .missing p = e
      ∨ ∃ cause, t.isDirectory p = true ∧ t.visibleFiles p = .error cause ∧ .walk p cause = e
  := by
  unfold scriptsAt
  rw [FileTree.isDirectory_iff]
  split
  · next rights h => cases hvisible : t.visibleFiles p <;> simp [h]
  · next content h => simp [h]
  · next cause h => simp [h]

/-- What is found at a path are files. -/
theorem hasFile_of_mem_scriptsAt (ht : t.WellFormed) (h : scriptsAt t l allFiles p = .ok found)
    (hq : q ∈ found) :
  ∃ content, t.entry? (t.target q) = some (.file content)
  := by
  obtain ⟨hfile, rfl⟩ | ⟨visible, hvisible, rfl⟩ := scriptsAt_eq_ok_iff.mp h
  · obtain rfl := List.mem_singleton.mp hq
    obtain ⟨content, hfind⟩ := FileTree.isFile_iff.mp hfile
    obtain ⟨place, hplace, hentry⟩ := FileTree.find_eq_ok_iff.mp hfind
    rw [FileTree.target_eq_of_place hplace]
    exact ⟨content, hentry⟩
  · obtain ⟨base, hp, -, rfl⟩ := FileTree.visibleFiles_eq_ok_iff.mp hvisible
    apply (ht.isVisibleBelow_of_mem hp (List.mem_filter.mp hq).1).isFile

theorem collectScripts_eq_ok_iff :
  collectScripts t l allFiles inputs = .ok scripts
    ↔ ∃ found, inputs.mapM (scriptsAt t l allFiles) = .ok found ∧ .ofList found.flatten = scripts
  := by
  unfold collectScripts
  cases inputs.mapM (scriptsAt t l allFiles) <;> simp [Except.map]

/-- Files are found if each path stands for some. -/
theorem exists_collectScripts
    (h : ∀ p ∈ inputs, ∃ found, scriptsAt t l allFiles p = .ok found) :
  ∃ scripts, collectScripts t l allFiles inputs = .ok scripts
  := by
  obtain ⟨found, hfound⟩ := isOk_mapM_iff.mpr h
  exact ⟨_, collectScripts_eq_ok_iff.mpr ⟨found, hfound, rfl⟩⟩

/-- The first path that stands for no files is what is wrong. -/
theorem collectScripts_eq_error_iff :
  collectScripts t l allFiles inputs = .error e
    ↔ ∃ before p after, inputs = before ++ p :: after
      ∧ (∀ q ∈ before, ∃ found, scriptsAt t l allFiles q = .ok found)
      ∧ scriptsAt t l allFiles p = .error e
  := by
  have hmap : collectScripts t l allFiles inputs = .error e
      ↔ inputs.mapM (scriptsAt t l allFiles) = .error e := by
    unfold collectScripts
    cases inputs.mapM (scriptsAt t l allFiles) <;> simp [Except.map]
  rw [hmap, mapM_eq_error_iff]

theorem ascending_of_collectScripts (h : collectScripts t l allFiles inputs = .ok scripts) :
  scripts.Ascending
  := by
  obtain ⟨found, -, rfl⟩ := collectScripts_eq_ok_iff.mp h
  apply PathSet.ascending_ofList

/-- What is found at some paths are files. -/
theorem hasFile_of_mem_collectScripts (ht : t.WellFormed)
    (h : collectScripts t l allFiles inputs = .ok scripts) (hp : p ∈ scripts) :
  ∃ content, t.entry? (t.target p) = some (.file content)
  := by
  obtain ⟨found, hfound, rfl⟩ := collectScripts_eq_ok_iff.mp h
  obtain ⟨ps, hps, hp⟩ := List.mem_flatten.mp (PathSet.mem_of_mem_ofList hp)
  obtain ⟨input, -, hinput⟩ := (mem_iff_of_mapM hfound).mp hps
  apply hasFile_of_mem_scriptsAt ht hinput hp

end DirectiveLint
