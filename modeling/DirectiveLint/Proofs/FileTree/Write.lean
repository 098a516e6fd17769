import DirectiveLint.Proofs.FileTree.Walk

/-!
# Writing a file

Writing to a path that leads to a file succeeds, and the text can be read there afterwards
(`FileTree.readText_of_writeText`): the path still leads to the same place, since it passes
through directories only and none of them is written to.
-/

namespace DirectiveLint.FileTree

variable {t t' : FileTree} {p : Path} {place base : Place} {text : Text} {content : FileContent}

theorem entry?_put {q : Place} {entry : FileEntry} (hne : place ≠ []) :
  entry? (t.put place entry) q = if q = place then some entry else t.entry? q
  := by
  unfold entry? put
  dsimp only
  split
  · next h => rw [h, if_neg (Ne.symm hne)]
  · rw [List.find?_cons]
    split
    · next h =>
      rw [decide_eq_true_iff] at h
      rw [if_pos h.symm]
      rfl
    · next h =>
      rw [decide_eq_false_iff_not] at h
      have hother : ∀ e : Place × FileEntry,
          (decide (e.1 ≠ place) = true ∧ decide (e.1 = q) = true) ↔ e.1 = q := by
        intro e
        simp only [decide_eq_true_iff, and_iff_right_iff_imp]
        rintro rfl
        apply Ne.symm h
      rw [if_neg (Ne.symm h), List.find?_filter]
      simp only [hother]

/-- A path with a slash at its end leads to no file. -/
theorem getLast?_ne_of_find (h : t.find p = .ok (.file content)) :
  p.bytes.getLast? ≠ some slash
  := by
  intro hlast
  obtain ⟨place, hplace, hentry⟩ := find_eq_ok_iff.mp h
  obtain ⟨s, hs⟩ := List.getLast?_eq_some_iff.mp hlast
  obtain ⟨-, hfollow⟩ := place_eq_ok_iff.mp hplace
  rw [hs, pieces_append_cons, List.foldlM_append, bind_eq_ok_iff] at hfollow
  obtain ⟨place', -, hlaststep⟩ := hfollow
  rw [pieces, List.foldlM_cons, bind_eq_ok_iff] at hlaststep
  obtain ⟨next, hnext, hdone⟩ := hlaststep
  obtain rfl : next = place := Except.ok.inj hdone
  obtain ⟨⟨rights, hdirectory⟩, rfl⟩ := step_nil_eq_ok_iff.mp hnext
  rw [hdirectory, Option.some.injEq] at hentry
  contradiction

theorem trimStart_of_head?_ne {d : UInt8} {bs : Bytes} (h : bs.head? ≠ some d) :
  trimStart d bs = bs
  := by
  cases bs with
  | nil => rfl
  | cons b bs =>
    rw [List.head?_cons, ne_eq, Option.some.injEq] at h
    rw [trimStart, List.dropWhile_cons, if_neg (decide_eq_false h ▸ Bool.false_ne_true)]

/-- A file that is there can be written. -/
theorem exists_writeText (h : t.find p = .ok (.file content)) (text : Text) :
  ∃ place, t.place p = .ok place ∧ t.entry? place = some (.file content) ∧ place ≠ []
    ∧ t.writeText p text = .ok (t.put place (.file { content with text := some text }))
  := by
  obtain ⟨place, hplace, hentry⟩ := find_eq_ok_iff.mp h
  have hne : place ≠ [] := by
    rintro rfl
    obtain ⟨rights, hroot⟩ := t.hasDirectory_root
    rw [hroot, Option.some.injEq] at hentry
    contradiction
  have hnamed : (trimStart slash p.bytes.reverse).reverse = p.bytes := by
    rw [List.reverse_eq_iff]
    apply trimStart_of_head?_ne
    rw [List.head?_reverse]
    apply getLast?_ne_of_find h
  refine ⟨place, hplace, hentry, hne, ?_⟩
  rw [writeText, (place_eq_ok_iff.mp hplace).1]
  dsimp only
  rw [hnamed, if_neg (bytes_ne_nil_of_place hplace), hplace]
  dsimp only
  rw [hentry]
  apply if_neg
  apply not_not_intro rfl

/-! ### Paths in the tree that was written -/

/-- The directories of the one tree are in the other one, with the same rights. -/
def DirectoriesIn (t t' : FileTree) : Prop :=
  ∀ place rights, t.entry? place = some (.directory rights) →
    t'.entry? place = some (.directory rights)

/-- A step that leads somewhere leads there in every tree with the same directories. -/
theorem step_of_directoriesIn (h : t.DirectoriesIn t') {piece : Bytes}
    (hstep : t.step place piece = .ok base) :
  t'.step place piece = .ok base
  := by
  unfold step at hstep ⊢
  split at hstep
  · contradiction
  · contradiction
  · next rights hdirectory =>
    rw [h place rights hdirectory]
    apply hstep

theorem foldlM_step_of_directoriesIn (h : t.DirectoriesIn t') {parts : List Bytes}
    (hsteps : parts.foldlM t.step place = .ok base) :
  parts.foldlM t'.step place = .ok base
  := by
  induction parts generalizing place with
  | nil => apply hsteps
  | cons piece parts ih =>
    rw [List.foldlM_cons, bind_eq_ok_iff] at hsteps ⊢
    obtain ⟨next, hnext, hmore⟩ := hsteps
    exact ⟨next, step_of_directoriesIn h hnext, ih hmore⟩

theorem place_of_directoriesIn (h : t.DirectoriesIn t')
    (hworking : t'.workingPlace = t.workingPlace) (hplace : t.place p = .ok place) :
  t'.place p = .ok place
  := by
  obtain ⟨hdefect, hsteps⟩ := place_eq_ok_iff.mp hplace
  rw [place_eq_ok_iff, hworking]
  exact ⟨hdefect, foldlM_step_of_directoriesIn h hsteps⟩

/-- What is written to a file that is there and may be read is what is read from it. -/
theorem readText_of_writeText (h : t.find p = .ok (.file content)) (hread : content.read = true)
    (text : Text) :
  ∃ t', t.writeText p text = .ok t' ∧ t'.readText p = .ok text
  := by
  obtain ⟨place, hplace, hentry, hne, hwrite⟩ := exists_writeText h text
  have hdirectories : ∀ entry, t.DirectoriesIn (t.put place (.file entry)) := by
    intro entry q rights hq
    have hother : q ≠ place := by
      rintro rfl
      rw [hq, Option.some.injEq] at hentry
      contradiction
    rw [entry?_put hne, if_neg hother, hq]
  refine ⟨_, hwrite, ?_⟩
  rw [readText_eq_ok_iff, find_eq_ok_iff]
  use place, place_of_directoriesIn (hdirectories _) rfl hplace
  rw [entry?_put hne, if_pos rfl, hread]

end DirectiveLint.FileTree
