import DirectiveLint.Proofs.FileTree.Enumeration
import DirectiveLint.Proofs.Report.Collection

/-!
# Which files are checked

`StandsFor t l allFiles p q` says that a path stands for the file at another one: it is the path
of the file itself, or that of a directory below which the file is visible, and the linter
applies to the file or all files are wanted.  The scripts that are collected are exactly the
files for which the inputs stand (`Selects`).  So it makes no difference in which order the
inputs come, how often each of them, and in which order directories are gone through, the
spelling of paths with the same components apart (`collectScripts_selects`).  A name that starts
with a dot is visible if its bytes are no text (`exists_collected_dot`).
-/

namespace DirectiveLint

variable {t t' : FileTree} {l : Linter} {allFiles : Bool} {inputs inputs' : List Path}
  {p q : Path} {found : List Path} {scripts scripts' : PathSet}

/-- The first path stands for the file at the second one. -/
inductive StandsFor (t : FileTree) (l : Linter) (allFiles : Bool) : Path → Path → Prop where
  /-- The path of a file stands for the file, whatever its extension is. -/
  | file {p : Path} (h : t.isFile p = true) : StandsFor t l allFiles p p
  /-- A directory stands for the visible files below it to which the linter applies. -/
  | directory {p q : Path} (h : t.IsVisibleBelow p q)
      (hwanted : allFiles = true ∨ l.appliesTo q = true) :
    StandsFor t l allFiles p q

/-- The scripts are the files for which the inputs stand. -/
structure Selects (t : FileTree) (l : Linter) (allFiles : Bool) (inputs : List Path)
    (scripts : PathSet) : Prop where
  /-- The scripts come in the order of their components. -/
  ascending : scripts.Ascending
  /-- No two of them have the same components. -/
  nodup : (scripts.map Path.components).Nodup
  /-- Each of them is a file for which an input stands. -/
  standsFor : ∀ q ∈ scripts, ∃ p ∈ inputs, StandsFor t l allFiles p q
  /-- Each file for which an input stands is among them, maybe in another spelling. -/
  mem : ∀ p ∈ inputs, ∀ q, StandsFor t l allFiles p q →
    q.components ∈ scripts.map Path.components

/-- Files that are found at a path when its directories are gone through in some orders. -/
inductive Finds (t : FileTree) (l : Linter) (allFiles : Bool) : Path → List Path → Prop where
  /-- At the path of a file there is this file. -/
  | file {p : Path} (h : t.isFile p = true) : Finds t l allFiles p [p]
  /-- Of the files that are found in a directory, some may not be wanted. -/
  | directory {p : Path} {order : List (Bytes × FileEntry)} {found : List Path}
      (hlists : t.Lists p order) (hwalk : t.Walk p order found) :
    Finds t l allFiles p (found.filter fun q => allFiles || l.appliesTo q)

/-! ### One input -/

/-- Whether the linter applies to a path does not depend on its spelling. -/
theorem Linter.appliesTo_congr (h : p.components = q.components) :
  l.appliesTo p = l.appliesTo q
  := by
  rw [appliesTo, appliesTo, Path.extension?, Path.extension?, Path.fileName?, Path.fileName?, h]

/-- These are the files for which the path stands, maybe in another spelling. -/
structure Gathers (t : FileTree) (l : Linter) (allFiles : Bool) (p : Path)
    (found : List Path) : Prop where
  /-- The path stands for each of the files. -/
  standsFor : ∀ q ∈ found, StandsFor t l allFiles p q
  /-- Each file for which the path stands is among them. -/
  mem : ∀ q, StandsFor t l allFiles p q → q.components ∈ found.map Path.components

theorem gathers_of_isFile (h : t.isFile p = true) :
  Gathers t l allFiles p [p]
  := by
  constructor
  · intro q hq
    obtain rfl := List.mem_singleton.mp hq
    apply StandsFor.file h
  · rintro q (_ | ⟨hbelow, -⟩)
    · apply List.mem_singleton_self
    · -- what stands for files below it is no file
      cases FileTree.not_isDirectory_of_isFile h hbelow.isDirectory

theorem gathers_of_listing (ht : t.WellFormed) {base : Place} (h : t.listing p = .ok base)
    (hfound : ∀ q, q ∈ found ↔ q ∈ t.filesBelow p base) :
  Gathers t l allFiles p (found.filter fun q => allFiles || l.appliesTo q)
  := by
  constructor
  · intro q hq
    rw [List.mem_filter, hfound, Bool.or_eq_true] at hq
    apply StandsFor.directory (ht.isVisibleBelow_of_mem h hq.1) hq.2
  · rintro q (hfile | ⟨hbelow, hwanted⟩)
    · cases FileTree.not_isDirectory_of_isFile hfile (FileTree.isDirectory_of_listing h)
    · obtain ⟨r, hr, hcomponents⟩ := hbelow.exists_mem ht h
      rw [List.mem_map]
      use r
      rw [List.mem_filter, hfound, Bool.or_eq_true, Linter.appliesTo_congr hcomponents]
      exact ⟨⟨hr, hwanted⟩, hcomponents⟩

theorem gathers_of_scriptsAt (ht : t.WellFormed) (h : scriptsAt t l allFiles p = .ok found) :
  Gathers t l allFiles p found
  := by
  obtain ⟨hfile, rfl⟩ | ⟨visible, hvisible, rfl⟩ := scriptsAt_eq_ok_iff.mp h
  · apply gathers_of_isFile hfile
  · obtain ⟨base, hp, -, rfl⟩ := FileTree.visibleFiles_eq_ok_iff.mp hvisible
    apply gathers_of_listing ht hp fun q => Iff.rfl

/-- In whatever orders directories are gone through, the files for which a path stands are
found. -/
theorem Finds.gathers (ht : t.WellFormed) (h : Finds t l allFiles p found) :
  Gathers t l allFiles p found
  := by
  cases h with
  | file h => apply gathers_of_isFile h
  | directory hlists hwalk =>
    obtain ⟨base, hp, horder⟩ := hlists
    apply gathers_of_listing ht hp
    intro q
    apply hwalk.mem_iff ht hp horder

/-- Files are found at a path, in whatever orders its directories are gone through, exactly if it
stands for some. -/
theorem exists_finds_iff (ht : t.WellFormed) :
  (∃ found, Finds t l allFiles p found) ↔ ∃ found, scriptsAt t l allFiles p = .ok found
  := by
  rw [isOk_scriptsAt_iff, ← ht.exists_walk_iff]
  constructor
  · rintro ⟨_, hfile | ⟨hlists, hwalk⟩⟩
    · exact .inl hfile
    · exact .inr ⟨_, _, hlists, hwalk⟩
  · rintro (hfile | ⟨order, found, hlists, hwalk⟩)
    · exact ⟨_, .file hfile⟩
    · exact ⟨_, .directory hlists hwalk⟩

/-! ### All inputs -/

theorem selects_ofList {found : List (List Path)}
    (hfound : ∀ qs ∈ found, ∃ p ∈ inputs, Gathers t l allFiles p qs)
    (hinputs : ∀ p ∈ inputs, ∃ qs ∈ found, Gathers t l allFiles p qs) :
  Selects t l allFiles inputs (.ofList found.flatten)
  := by
  have hascending := PathSet.ascending_ofList found.flatten
  constructor
  · apply hascending
  · apply hascending.nodup_components
  · intro q hq
    obtain ⟨qs, hqs, hq⟩ := List.mem_flatten.mp (PathSet.mem_of_mem_ofList hq)
    obtain ⟨p, hp, hgathers⟩ := hfound qs hqs
    exact ⟨p, hp, hgathers.standsFor q hq⟩
  · intro p hp q hq
    obtain ⟨qs, hqs, hgathers⟩ := hinputs p hp
    rw [PathSet.map_components_ofList_iff, List.map_flatten, List.mem_flatten]
    exact ⟨_, List.mem_map_of_mem hqs, hgathers.mem q hq⟩

theorem selects_of_collectScripts (ht : t.WellFormed)
    (h : collectScripts t l allFiles inputs = .ok scripts) :
  Selects t l allFiles inputs scripts
  := by
  obtain ⟨found, hfound, rfl⟩ := collectScripts_eq_ok_iff.mp h
  apply selects_ofList
  · intro qs hqs
    obtain ⟨p, hp, hscripts⟩ := (mem_iff_of_mapM hfound).mp hqs
    exact ⟨p, hp, gathers_of_scriptsAt ht hscripts⟩
  · intro p hp
    obtain ⟨qs, hscripts⟩ := isOk_mapM_iff.mp ⟨found, hfound⟩ p hp
    exact ⟨qs, (mem_iff_of_mapM hfound).mpr ⟨p, hp, hscripts⟩, gathers_of_scriptsAt ht hscripts⟩

theorem selects_of_finds (ht : t.WellFormed) {found : List (List Path)}
    (h : List.Forall₂ (Finds t l allFiles) inputs found) :
  Selects t l allFiles inputs (.ofList found.flatten)
  := by
  apply selects_ofList
  · intro qs hqs
    obtain ⟨p, hp, hfinds⟩ := exists_of_mem_forall₂ h.flip hqs
    exact ⟨p, hp, hfinds.gathers ht⟩
  · intro p hp
    obtain ⟨qs, hqs, hfinds⟩ := exists_of_mem_forall₂ h hp
    exact ⟨qs, hqs, hfinds.gathers ht⟩

/-! ### The order of inputs and entries -/

theorem Selects.mem_map_components_iff (h : Selects t l allFiles inputs scripts)
    {cs : List Component} :
  cs ∈ scripts.map Path.components
    ↔ ∃ p ∈ inputs, ∃ q, StandsFor t l allFiles p q ∧ q.components = cs
  := by
  constructor
  · intro hcs
    obtain ⟨q, hq, rfl⟩ := List.mem_map.mp hcs
    obtain ⟨p, hp, hstands⟩ := h.standsFor q hq
    exact ⟨p, hp, q, hstands, rfl⟩
  · rintro ⟨p, hp, q, hstands, rfl⟩
    apply h.mem p hp q hstands

/-- Two trees are the same for those who look at places and follow paths. -/
structure LooksAlike (t t' : FileTree) : Prop where
  /-- The same lies at every place. -/
  entry : ∀ place, t'.entry? place = t.entry? place
  /-- Every path leads to the same. -/
  find : ∀ p, t'.find p = t.find p
  /-- Every path names the same place. -/
  target : ∀ p, t'.target p = t.target p

theorem LooksAlike.symm (h : LooksAlike t t') :
  LooksAlike t' t
  := ⟨fun place => (h.entry place).symm, fun p => (h.find p).symm, fun p => (h.target p).symm⟩

theorem StandsFor.of_looksAlike (halike : LooksAlike t t') (h : StandsFor t l allFiles p q) :
  StandsFor t' l allFiles p q
  := by
  have hisFile : t'.isFile p = t.isFile p := by
    rw [FileTree.isFile, FileTree.isFile, halike.find]
  have hisDirectory : t'.isDirectory p = t.isDirectory p := by
    rw [FileTree.isDirectory, FileTree.isDirectory, halike.find]
  cases h with
  | file h =>
    apply StandsFor.file
    rw [hisFile, h]
  | directory h hwanted =>
    apply StandsFor.directory _ hwanted
    refine ⟨hisDirectory.trans h.isDirectory, ?_, h.components⟩
    rw [halike.entry, halike.target]
    apply h.isFile

/-- The inputs and what lies in the tree determine the scripts up to their spelling. -/
theorem Selects.map_components_eq (h : Selects t l allFiles inputs scripts)
    (h' : Selects t' l allFiles inputs' scripts') (hinputs : ∀ p, p ∈ inputs' ↔ p ∈ inputs)
    (halike : LooksAlike t t') :
  scripts'.map Path.components = scripts.map Path.components
  := by
  have hstands : ∀ p q, StandsFor t' l allFiles p q ↔ StandsFor t l allFiles p q := by
    intro p q
    constructor
    · apply StandsFor.of_looksAlike halike.symm
    · apply StandsFor.of_looksAlike halike
  apply h'.ascending.map_components_congr h.ascending
  intro cs
  simp only [h.mem_map_components_iff, h'.mem_map_components_iff, hinputs, hstands]

section Order

variable (hentries : t'.entries.Perm t.entries) (ht : t.WellFormed)
  (hworking : t'.workingPlace = t.workingPlace)

include hentries ht hworking

theorem looksAlike_of_perm :
  LooksAlike t t'
  where
  entry := FileTree.entry?_of_perm hentries ht.nodup
  find := ht.find_of_perm hentries hworking
  target p := by rw [FileTree.target, FileTree.target, hworking]

theorem Finds.of_perm (h : Finds t l allFiles p found) :
  Finds t' l allFiles p found
  := by
  cases h with
  | file h =>
    apply Finds.file
    rw [FileTree.isFile, ht.find_of_perm hentries hworking]
    apply h
  | directory hlists hwalk =>
    apply Finds.directory (hlists.of_perm hentries ht hworking)
    apply hwalk.of_perm hentries ht hworking

end Order

/-- If each of some paths leads to a file, or to a directory that can be gone through, the scripts
that are collected are the files for which the paths stand.  Up to the spelling of their paths they
are the same for the same inputs in another order and number, for the same tree with its entries in
another order, and for each way of going through its directories, of which there is always one.  A
path at which there is nothing is reported, and nothing is collected, exactly if all paths before it
lead to files, or to directories that can be gone through. -/
theorem collectScripts_selects (ht : t.WellFormed) (l : Linter) (allFiles : Bool) :
  (∀ inputs, (∀ p ∈ inputs, ∃ found, Finds t l allFiles p found) →
    ∃ scripts, collectScripts t l allFiles inputs = .ok scripts
      ∧ Selects t l allFiles inputs scripts
      ∧ ∀ inputs', (∀ p, p ∈ inputs' ↔ p ∈ inputs) →
        (∀ t' : FileTree, t'.entries.Perm t.entries → t'.workingPlace = t.workingPlace →
          ∃ scripts', collectScripts t' l allFiles inputs' = .ok scripts'
            ∧ scripts'.map Path.components = scripts.map Path.components)
        ∧ (∃ found, List.Forall₂ (Finds t l allFiles) inputs' found)
        ∧ ∀ found, List.Forall₂ (Finds t l allFiles) inputs' found →
          (PathSet.ofList found.flatten).map Path.components = scripts.map Path.components)
    ∧ ∀ inputs p, collectScripts t l allFiles inputs = .error (.missing p)
      ↔ ∃ before after, inputs = before ++ p :: after
        ∧ (∀ q ∈ before, ∃ found, Finds t l allFiles q found) ∧ ¬ ∃ entry, t.find p = .ok entry
  := by
  constructor
  · intro inputs hinputs
    obtain ⟨scripts, hscripts⟩ :=
      exists_collectScripts fun p hp => (exists_finds_iff ht).mp (hinputs p hp)
    have hselects := selects_of_collectScripts ht hscripts
    refine ⟨scripts, hscripts, hselects, ?_⟩
    intro inputs' hsame
    have hinputs' : ∀ p ∈ inputs', ∃ found, Finds t l allFiles p found := by
      intro p hp
      apply hinputs p ((hsame p).mp hp)
    refine ⟨?_, exists_forall₂ hinputs', ?_⟩
    · intro t' hentries hworking
      have ht' := ht.of_perm hentries
      obtain ⟨scripts', hscripts'⟩ : ∃ scripts',
          collectScripts t' l allFiles inputs' = .ok scripts' := by
        apply exists_collectScripts
        intro p hp
        obtain ⟨found, hfound⟩ := hinputs' p hp
        exact (exists_finds_iff ht').mp ⟨found, hfound.of_perm hentries ht hworking⟩
      use scripts', hscripts'
      have hselects' := selects_of_collectScripts ht' hscripts'
      apply hselects.map_components_eq hselects' hsame (looksAlike_of_perm hentries ht hworking)
    · intro found hfound
      apply hselects.map_components_eq (selects_of_finds ht hfound) hsame
      exact ⟨fun _ => rfl, fun _ => rfl, fun _ => rfl⟩
  · intro inputs p
    simp only [collectScripts_eq_error_iff, exists_finds_iff ht, scriptsAt_eq_error_iff]
    constructor
    · rintro ⟨before, q, after, hsplit, hbefore, ⟨hnone, hq⟩ | ⟨cause, -, -, hq⟩⟩
      · obtain rfl := CollectError.missing.inj hq
        exact ⟨before, after, hsplit, hbefore, hnone⟩
      · contradiction
    · rintro ⟨before, after, hsplit, hbefore, hnone⟩
      exact ⟨before, p, after, hsplit, hbefore, .inl ⟨hnone, rfl⟩⟩

/-- In a directory with a hidden one inside, a script is found and a text is not, unless it is
named.  The order of the inputs decides on the spelling of the script. -/
theorem collectScripts_selects_spellings :
  let d : Bytes := utf8 ['d']
  let t : FileTree :=
    ⟨[([d], .directory {}), ([d, utf8 ".x".toList], .directory {}),
      ([d, utf8 ".x".toList, utf8 "b.sh".toList], .file { text := none }),
      ([d, utf8 ['n']], .file { text := none }),
      ([d, utf8 "a.sh".toList], .file { text := none })], []⟩
  let l : Linter := { schema := ⟨⟨[], [], []⟩, .builtins⟩ }
  let directory : Path := .ofText ['d']
  let script : Path := .ofText "d/./a.sh".toList
  let text : Path := .ofText "d/n".toList
  t.WellFormed ∧ (∀ p ∈ [directory, script, text], ∃ found, Finds t l false p found)
    ∧ Selects t l false [directory, script, text] [.ofText "d/a.sh".toList, text]
    ∧ collectScripts t l false [text, script, directory, script] = .ok [script, text]
    ∧ (∃ found, List.Forall₂ (Finds t l false) [text, script, directory, script] found)
    ∧ collectScripts t l false [directory, .ofText ['m'], .ofText ['k']]
      = .error (.missing (.ofText ['m']))
  := by
  intro d t l directory script text
  have ht : t.WellFormed := by decide
  obtain ⟨hok, herror⟩ := collectScripts_selects ht l false
  have hinputs : ∀ p ∈ [directory, script, text], ∃ found, Finds t l false p found := by
    simp only [exists_finds_iff ht, List.forall_mem_cons]
    exact ⟨⟨_, rfl⟩, ⟨_, rfl⟩, ⟨_, rfl⟩, nofun⟩
  have hsame : ∀ p, p ∈ [text, script, directory, script] ↔ p ∈ [directory, script, text] := by
    intro p
    simp only [List.mem_cons, List.not_mem_nil, or_false]
    grind
  obtain ⟨scripts, hscripts, hselects, hsameScripts⟩ := hok _ hinputs
  obtain rfl : [.ofText "d/a.sh".toList, text] = scripts := Except.ok.inj hscripts
  obtain ⟨-, hfound, -⟩ := hsameScripts _ hsame
  refine ⟨ht, hinputs, hselects, by decide, hfound, ?_⟩
  rw [herror]
  refine ⟨[directory], [.ofText ['k']], rfl, ?_, ?_⟩
  · rw [List.forall_mem_singleton]
    apply hinputs directory List.mem_cons_self
  · rintro ⟨entry, hentry⟩
    cases hentry

/-- A script in a directory whose name starts with a dot is collected, because the name goes on
with a byte that is in no text. -/
theorem exists_collected_dot :
  let d : Bytes := utf8 ['d']
  let name : Bytes := [dot, 0xFF]
  let t : FileTree :=
    ⟨[([d], .directory {}), ([d, name], .directory {}),
      ([d, name, utf8 "a.sh".toList], .file { text := some [] })], []⟩
  let l : Linter := { schema := ⟨⟨[], [], []⟩, .builtins⟩ }
  let script : Path := ((Path.ofText ['d']).join ⟨name⟩).join (.ofText "a.sh".toList)
  t.WellFormed ∧ collectScripts t l false [.ofText ['d']] = .ok [script]
    ∧ script.components = (Path.ofText ['d']).components
      ++ [name, utf8 "a.sh".toList].map .name
    ∧ name.head? = some dot
  := by
  refine ⟨by decide, by decide, by decide, rfl⟩

end DirectiveLint
