import DirectiveLint.Config.File
import DirectiveLint.Proofs.FileTree.Write
import DirectiveLint.Proofs.Path.Join

/-!
# Saving what was loaded

A configuration that was loaded can be saved to its file and loaded again, and this takes its
paths from the directory of the file once more.  Nothing changes if the paths are absolute
then, as they are below an absolute directory, or if the path of the directory has no names
(`Config.load_save_same_iff`); otherwise the directory stands twice in the paths of tables.
-/

namespace DirectiveLint

variable {t : FileTree} {p base : Path} {c d : Config} {s : TablePaths}

namespace TablePaths

/-- All paths that are set are absolute. -/
def IsAbsolute (s : TablePaths) : Prop :=
  ∀ path ∈ [s.directory, s.flags, s.validators], ∀ p ∈ path, p.isAbsolute = true

@[simp]
theorem samePath_self (path : Option Path) :
  same.samePath path path = true
  := by
  cases path with
  | none => rfl
  | some p => simp [same.samePath, Path.same]

theorem same_self :
  s.same s = true
  := by simp [same]

theorem samePath_join_join_iff {path : Option Path} :
  same.samePath ((path.map base.join).map base.join) (path.map base.join) = true
    ↔ (∀ p ∈ path.map base.join, p.isAbsolute = true) ∨ base.named = []
  := by
  cases path with
  | none => simp [same.samePath]
  | some p => simp [same.samePath, Path.same_join_join_iff]

/-- Taking paths from a directory again changes none of them exactly if they are absolute or
the directory has no names. -/
theorem same_relativeTo_relativeTo_iff :
  ((s.relativeTo base).relativeTo base).same (s.relativeTo base) = true
    ↔ (s.relativeTo base).IsAbsolute ∨ base.named = []
  := by
  simp only [same, relativeTo, Bool.and_eq_true, samePath_join_join_iff, IsAbsolute,
    List.forall_mem_cons]
  tauto

theorem isAbsolute_relativeTo (h : base.isAbsolute = true) :
  (s.relativeTo base).IsAbsolute
  := by
  have hmap : ∀ path : Option Path, ∀ p ∈ path.map base.join, p.isAbsolute = true := by
    intro path p hp
    obtain ⟨q, -, rfl⟩ := Option.map_eq_some_iff.mp hp
    apply Path.isAbsolute_join h
  simp only [IsAbsolute, relativeTo, List.forall_mem_cons]
  exact ⟨hmap _, hmap _, hmap _, List.forall_mem_nil _⟩

end TablePaths

namespace Config

/-- The configuration, its relative paths taken from the directory of a file. -/
def takenFrom (c : Config) (p : Path) : Config :=
  match p.parent? with
  | some base => { c with tables := c.tables.relativeTo base }
  | none => c

theorem defect?_takenFrom (c : Config) (p : Path) :
  (c.takenFrom p).defect? = c.defect?
  := by
  unfold takenFrom
  split
  · simp only [defect?, TablePaths.relativeTo, Option.isSome_map]
  · rfl

theorem checked_eq_ok_iff :
  c.checked = .ok d ↔ c.defect? = none ∧ c = d
  := by
  unfold checked
  split
  · next h => simp [h]
  · next h => simp [h]

theorem load_eq_ok_iff :
  load t p = .ok c ↔ ∃ text written, t.readText p = .ok text ∧ read? text = some written
    ∧ written.defect? = none ∧ written.takenFrom p = c
  := by
  unfold load
  split
  · next h => simp [h]
  · next h => simp [h]
  · next h => simp [h]
  · next text htext =>
    split
    · next hread => simp [htext, hread]
    · next written hread =>
      trans (written.takenFrom p).checked = .ok c
      · unfold takenFrom
        cases p.parent? with
        | none => rfl
        | some base => rfl
      · rw [checked_eq_ok_iff, defect?_takenFrom]
        simp [htext, hread]

theorem same_takenFrom_iff (h : d.takenFrom p = c) :
  (c.takenFrom p).same c = true
    ↔ ∀ base, p.parent? = some base → c.tables.IsAbsolute ∨ base.named = []
  := by
  subst h
  cases hparent : p.parent? with
  | none => simp [takenFrom, hparent, same, TablePaths.same_self]
  | some base => simp [takenFrom, hparent, same, TablePaths.same_relativeTo_relativeTo_iff]

/-- A configuration that was loaded from a file can be saved there and loaded again, if it can be
written as YAML.  It comes back as it was exactly if its paths are absolute or the path of the
directory of the file has no names, so in particular if the path of the file is absolute or has no
slash. -/
theorem load_save_same_iff (hload : load t p = .ok c)
    (hyaml : ∀ data, c.toData? = some data → read? (Yaml.write data) = some c) :
  ((∃ data, c.toData? = some data) →
    ∃ t' d, c.save t p = .ok t' ∧ load t' p = .ok d
      ∧ (d.same c = true
        ↔ ∀ base, p.parent? = some base → c.tables.IsAbsolute ∨ base.named = [])
      ∧ (p.isAbsolute = true ∨ slash ∉ p.bytes → d.same c = true))
    ∧ (c.toData? = none → c.save t p = .error .yaml)
  := by
  obtain ⟨text, written, htext, -, hdefect, hwritten⟩ := load_eq_ok_iff.mp hload
  have hfile := FileTree.readText_eq_ok_iff.mp htext
  constructor
  · rintro ⟨data, hdata⟩
    obtain ⟨t', hwrite, htext'⟩ := FileTree.readText_of_writeText hfile rfl (Yaml.write data)
    have hsame := same_takenFrom_iff hwritten
    refine ⟨t', c.takenFrom p, ?_, ?_, hsame, ?_⟩
    · rw [save, hdata]
      dsimp only
      rw [hwrite]
      rfl
    · rw [load_eq_ok_iff]
      refine ⟨_, c, htext', hyaml data hdata, ?_, rfl⟩
      rw [← hwritten, defect?_takenFrom, hdefect]
    · intro hp
      rw [hsame]
      intro base hbase
      rcases hp with habsolute | hslash
      · left
        rw [← hwritten, takenFrom, hbase]
        apply TablePaths.isAbsolute_relativeTo
        apply Path.isAbsolute_of_parent?_eq_some habsolute hbase
      · right
        rw [Path.named, Path.bytes_of_parent?_eq_some hslash hbase]
        rfl
  · intro hdata
    obtain ⟨t', hwrite, -⟩ := FileTree.readText_of_writeText hfile rfl []
    rw [save, hdata]
    dsimp only
    rw [hwrite]

/-! ### A file in a directory -/

/-- A configuration file in a directory `conf` of the working directory, with tables next to
it. -/
def confTree : FileTree where
  entries :=
    [([utf8 "w".toList], .directory {}), ([utf8 "w".toList, utf8 "conf".toList], .directory {}),
      ([utf8 "w".toList, utf8 "conf".toList, utf8 "x.yml".toList],
        .file { text := some "schema:\n  dir: tables\n".toList })]
  workingPlace := [utf8 "w".toList]

/-- The configuration that selects the tables in a directory. -/
def ofDirectory (directory : Text) : Config where
  tables := { directory := some (.ofText directory) }

/-- The YAML form of this configuration. -/
def dataOfDirectory (directory : Text) : Json :=
  .object
    [("version".toList, .string "1.0".toList), ("tag".toList, .string Tag.default.text),
      ("extensions".toList, .array [.string defaultExtension]),
      ("schema".toList, .object [("dir".toList, .string directory)])]

theorem toData?_ofDirectory (directory : Text) :
  (ofDirectory directory).toData? = some (dataOfDirectory directory)
  := by
  have htext : ofUtf8? (Path.ofText directory).bytes = some directory := ofUtf8?_utf8 directory
  simp only [toData?, TablePaths.toData?, ofDirectory, htext]
  rfl

theorem read?_confTree :
  read? "schema:\n  dir: tables\n".toList = some (ofDirectory "tables".toList)
  := by decide +kernel

theorem load_save_same_iff_absolute :
  ∃ t' d, (ofDirectory "/w/conf/tables".toList).save confTree (.ofText "/w/conf/x.yml".toList)
      = .ok t'
    ∧ load t' (.ofText "/w/conf/x.yml".toList) = .ok d
    ∧ d.same (ofDirectory "/w/conf/tables".toList) = true
  := by
  have hdata := toData?_ofDirectory "/w/conf/tables".toList
  have hyaml : ∀ data, (ofDirectory "/w/conf/tables".toList).toData? = some data →
      read? (Yaml.write data) = some (ofDirectory "/w/conf/tables".toList) := by
    rw [hdata]
    rintro data ⟨⟩
    decide +kernel
  obtain ⟨hsaved, -⟩ :=
    @load_save_same_iff confTree (.ofText "/w/conf/x.yml".toList)
      (ofDirectory "/w/conf/tables".toList)
      (load_eq_ok_iff.mpr ⟨_, _, rfl, read?_confTree, rfl, rfl⟩) hyaml
  obtain ⟨t', d, hsave, hload, -, hsame⟩ := hsaved ⟨_, hdata⟩
  exact ⟨t', d, hsave, hload, hsame (.inl rfl)⟩

/-- Loaded through the relative path of its file, a configuration is changed by saving it and
loading it again: the directory of the file stands twice in the path of the tables. -/
theorem load_save_relative :
  load confTree (.ofText "conf/x.yml".toList) = .ok (ofDirectory "conf/tables".toList)
    ∧ (∃ data, (ofDirectory "conf/tables".toList).toData? = some data
      ∧ read? (Yaml.write data) = some (ofDirectory "conf/tables".toList))
    ∧ ∃ t', (ofDirectory "conf/tables".toList).save confTree (.ofText "conf/x.yml".toList) = .ok t'
      ∧ load t' (.ofText "conf/x.yml".toList) = .ok (ofDirectory "conf/conf/tables".toList)
      ∧ (ofDirectory "conf/conf/tables".toList).same (ofDirectory "conf/tables".toList) = false
  := by
  have hread : read? (Yaml.write (dataOfDirectory "conf/tables".toList))
      = some (ofDirectory "conf/tables".toList) := by decide +kernel
  have hdata := toData?_ofDirectory "conf/tables".toList
  have hsave : (ofDirectory "conf/tables".toList).save confTree (.ofText "conf/x.yml".toList)
      = (confTree.writeText (.ofText "conf/x.yml".toList)
        (Yaml.write (dataOfDirectory "conf/tables".toList))).mapError .file := by
    rw [save, hdata]
  refine ⟨?_, ⟨_, hdata, hread⟩, _, hsave.trans rfl, ?_, rfl⟩
  · exact load_eq_ok_iff.mpr ⟨_, _, rfl, read?_confTree, rfl, rfl⟩
  · exact load_eq_ok_iff.mpr ⟨_, _, rfl, hread, rfl, rfl⟩

end Config

end DirectiveLint
