import DirectiveLint.Database

/-!
# Sources that are passed over

The search for tables passes over a source that is missing and ends at any other one.  A
source is missing if nothing is at the path of its flag table, and also if it is a pair of
files of which only the flag table is there (`Database.isMissing_iff`).  So a
source whose flag table is there keeps all later sources from being loaded, unless it is such
a pair (`Database.loadFirst_stops_at_flagTable`); a pair without its validator table is passed
over, whatever its flag table holds.
-/

namespace DirectiveLint

namespace Source

/-- The path of the flag table, unless it is bundled. -/
def flagTable? : Source → Option Path
  | .directory p => some (p.join flagsFile)
  | .files flags _ => some flags
  | .bundled => none

/-- The flag table is there: something is at its path, or it is bundled. -/
def HasFlagTable (s : Source) (t : FileTree) : Prop :=
  ∀ p ∈ s.flagTable?, ∃ entry, t.find p = .ok entry

/-- The source is a pair of files of which the flag table can be read and nothing is at the
path of the validator table. -/
inductive LacksValidators (t : FileTree) : Source → Prop where
  | files {flags validators : Path} {text : Text} (hflags : t.readText flags = .ok text)
      (hvalidators : t.find validators = .error .notFound) :
    LacksValidators t (.files flags validators)

end Source

namespace FileTree

variable {t : FileTree} {p : Path}

/-- A file that is there is not missing. -/
theorem toText_ne_notFound (content : FileContent) :
  content.toText ≠ .error .notFound
  := by
  obtain ⟨text, read⟩ := content
  cases text <;> cases read <;> simp [FileContent.toText]

/-- Reading a file says that it is missing only if nothing is at its path. -/
theorem readText_eq_notFound_iff :
  t.readText p = .error .notFound ↔ t.find p = .error .notFound
  := by
  unfold readText
  split
  · next h => simp [h]
  · next rights h => cases hlist : rights.list <;> simp [h]
  · next content h => simp [h, toText_ne_notFound]

end FileTree

/-- The error is about tables that were read. -/
inductive LoadError.IsFault : LoadError → Prop where
  | json : IsFault .json
  | schema (cause : SchemaError) : IsFault (.schema cause)

/-- Tables that were read are not missing. -/
theorem LoadError.IsFault.isMissing_eq_false {e : LoadError} (h : e.IsFault) :
  e.isMissing = false
  := by
  cases h <;> rfl

namespace Database

variable {t : FileTree} {s : Source} {sources later : List Source} {e : LoadError}

/-- Loading the source says that it is missing, so that the search passes over it. -/
def IsMissing (t : FileTree) (s : Source) : Prop :=
  ∃ e, schemaOfSource t s = .error e ∧ e.isMissing = true

/-! ### Missing sources -/

/-- Tables that make no schema are faulty. -/
theorem isFault_mapError {result : Except SchemaError Schema}
    (h : result.mapError .schema = .error e) :
  e.IsFault
  := by
  cases result with
  | error defect =>
    obtain rfl := Except.error.inj h
    apply LoadError.IsFault.schema
  | ok schema => contradiction

/-- Texts that have been read are faulty at most. -/
theorem isFault_schemaOfTexts {flags : Text} {validators : Option Text}
    (h : schemaOfTexts flags validators = .error e) :
  e.IsFault
  := by
  unfold schemaOfTexts at h
  split at h
  · obtain rfl := Except.error.inj h
    apply LoadError.IsFault.json
  · split at h
    · obtain rfl := Except.error.inj h
      apply LoadError.IsFault.json
    · apply isFault_mapError h

theorem isMissing_file_iff {cause : FileError} :
  (LoadError.file cause).isMissing = true ↔ cause = .notFound
  := by
  cases cause <;> simp [LoadError.isMissing]

theorem isMissing_directory_iff {p : Path} :
  IsMissing t (.directory p) ↔ t.find (p.join flagsFile) = .error .notFound
  := by
  rw [← FileTree.readText_eq_notFound_iff]
  simp only [IsMissing, schemaOfSource, schemaOfDirectory]
  constructor
  · rintro ⟨e, h, he⟩
    split at h
    · next hflags =>
      obtain rfl := Except.error.inj h
      rw [hflags, isMissing_file_iff.mp he]
    · split at h
      · rw [(isFault_schemaOfTexts h).isMissing_eq_false] at he
        contradiction
      · rw [(isFault_schemaOfTexts h).isMissing_eq_false] at he
        contradiction
      · next hnotFound _ =>
        obtain rfl := Except.error.inj h
        cases hnotFound (isMissing_file_iff.mp he)
  · intro h
    rw [h]
    exact ⟨_, rfl, rfl⟩

theorem isMissing_files_iff {flags validators : Path} :
  IsMissing t (.files flags validators)
    ↔ t.find flags = .error .notFound ∨ (Source.files flags validators).LacksValidators t
  := by
  rw [← FileTree.readText_eq_notFound_iff]
  simp only [IsMissing, schemaOfSource, schemaOfFiles]
  constructor
  · rintro ⟨e, h, he⟩
    split at h
    · next hflags =>
      obtain rfl := Except.error.inj h
      rw [hflags, isMissing_file_iff.mp he]
      exact .inl rfl
    · next hflags =>
      split at h
      · next hvalidators =>
        obtain rfl := Except.error.inj h
        right
        apply Source.LacksValidators.files hflags
        rw [← FileTree.readText_eq_notFound_iff, hvalidators, isMissing_file_iff.mp he]
      · rw [(isFault_schemaOfTexts h).isMissing_eq_false] at he
        contradiction
  · rintro (h | ⟨hflags, hvalidators⟩)
    · rw [h]
      exact ⟨_, rfl, rfl⟩
    · rw [hflags, FileTree.readText_eq_notFound_iff.mpr hvalidators]
      exact ⟨_, rfl, rfl⟩

theorem not_isMissing_bundled :
  ¬ IsMissing t .bundled
  := by
  rintro ⟨e, h, he⟩
  rw [schemaOfSource, bundledSchema] at h
  rw [(isFault_mapError h).isMissing_eq_false] at he
  apply Bool.false_ne_true he

/-- A source is missing if its flag table is, and also if it is a pair of files without its
validator table. -/
theorem isMissing_iff :
  IsMissing t s ↔ (∃ p ∈ s.flagTable?, t.find p = .error .notFound) ∨ s.LacksValidators t
  := by
  cases s with
  | directory p =>
    have hpair : ¬ (Source.directory p).LacksValidators t := nofun
    simp [isMissing_directory_iff, Source.flagTable?, hpair]
  | files flags validators =>
    simp [isMissing_files_iff, Source.flagTable?]
  | bundled =>
    have hpair : ¬ Source.bundled.LacksValidators t := nofun
    simp [not_isMissing_bundled, Source.flagTable?, hpair]

/-- A source whose flag table is there is missing only if it lacks its validator table. -/
theorem isMissing_iff_of_hasFlagTable (h : s.HasFlagTable t) :
  IsMissing t s ↔ s.LacksValidators t
  := by
  rw [isMissing_iff, or_iff_right]
  rintro ⟨p, hp, hfind⟩
  obtain ⟨entry, hentry⟩ := h p hp
  rw [hfind] at hentry
  contradiction

/-! ### The search -/

theorem firstPresent?_cons_of_isMissing (h : IsMissing t s) :
  firstPresent? t (s :: sources) = firstPresent? t sources
  := by
  obtain ⟨e, hs, he⟩ := h
  rw [firstPresent?, hs]
  apply if_pos he

theorem firstPresent?_cons_of_not_isMissing (h : ¬ IsMissing t s) :
  firstPresent? t (s :: sources) = some (s, schemaOfSource t s)
  := by
  rw [firstPresent?]
  cases hs : schemaOfSource t s with
  | error e =>
    apply if_neg
    intro he
    apply h ⟨e, hs, he⟩
  | ok schema => rfl

/-- Later sources are tried only if all earlier ones are missing. -/
theorem firstPresent?_append :
  firstPresent? t (sources ++ later) = (firstPresent? t sources).or (firstPresent? t later)
  := by
  induction sources with
  | nil => rfl
  | cons s sources ih =>
    rw [List.cons_append]
    by_cases h : IsMissing t s
    · rw [firstPresent?_cons_of_isMissing h, firstPresent?_cons_of_isMissing h, ih]
    · rw [firstPresent?_cons_of_not_isMissing h, firstPresent?_cons_of_not_isMissing h]
      rfl

/-- The source that is found parts the sources into missing ones and ones that are not tried. -/
theorem exists_append_of_firstPresent? {result : Except LoadError Schema}
    (h : firstPresent? t sources = some (s, result)) :
  ∃ before after, sources = before ++ s :: after ∧ (∀ b ∈ before, IsMissing t b)
    ∧ ¬ IsMissing t s ∧ schemaOfSource t s = result
  := by
  induction sources with
  | nil => contradiction
  | cons first sources ih =>
    by_cases hfirst : IsMissing t first
    · rw [firstPresent?_cons_of_isMissing hfirst] at h
      obtain ⟨before, after, rfl, hbefore, hs, hresult⟩ := ih h
      refine ⟨first :: before, after, rfl, ?_, hs, hresult⟩
      rw [List.forall_mem_cons]
      exact ⟨hfirst, hbefore⟩
    · rw [firstPresent?_cons_of_not_isMissing hfirst] at h
      obtain ⟨rfl, hresult⟩ := Prod.mk.inj (Option.some.inj h)
      refine ⟨[], sources, rfl, ?_, hfirst, hresult⟩
      intro b hb
      contradiction

/-- What is found is one of the sources, with its schema. -/
theorem schemaOfSource_of_firstPresent? {result : Except LoadError Schema}
    (h : firstPresent? t sources = some (s, result)) :
  s ∈ sources ∧ schemaOfSource t s = result
  := by
  obtain ⟨before, after, rfl, -, -, hresult⟩ := exists_append_of_firstPresent? h
  exact ⟨List.mem_append_cons_self, hresult⟩

/-- A source that is not missing ends the search. -/
theorem firstPresent?_append_cons_of_not_isMissing (h : ¬ IsMissing t s) :
  firstPresent? t (sources ++ s :: later) = firstPresent? t (sources ++ [s])
  := by
  simp only [firstPresent?_append, firstPresent?_cons_of_not_isMissing h]

/-- A missing source is passed over wherever it stands. -/
theorem firstPresent?_append_cons_of_isMissing (h : IsMissing t s) :
  firstPresent? t (sources ++ s :: later) = firstPresent? t (sources ++ later)
  := by
  simp only [firstPresent?_append, firstPresent?_cons_of_isMissing h]

/-- What is loaded is what is found, and its origin lists all sources. -/
theorem loadFirst_of_firstPresent? {result : Except LoadError Schema}
    (h : firstPresent? t sources = some (s, result)) :
  loadFirst t sources = result.map (⟨·, originAmong sources s⟩)
  := by
  rw [loadFirst, h]
  cases result <;> rfl

/-- A source whose flag table is there ends the search: whatever comes later, the result is
that of loading it or an earlier source.  But a pair of files that lacks its validator table
is passed over, as if it were not among the sources. -/
theorem loadFirst_stops_at_flagTable (h : s.HasFlagTable t) (before after : List Source) :
  (¬ s.LacksValidators t →
      firstPresent? t (before ++ s :: after) = firstPresent? t (before ++ [s])
      ∧ ∃ loaded ∈ before ++ [s], loadFirst t (before ++ s :: after)
        = (schemaOfSource t loaded).map (⟨·, originAmong (before ++ s :: after) loaded⟩))
    ∧ (s.LacksValidators t →
      firstPresent? t (before ++ s :: after) = firstPresent? t (before ++ after))
  := by
  rw [← isMissing_iff_of_hasFlagTable h]
  refine ⟨?_, firstPresent?_append_cons_of_isMissing⟩
  intro hmissing
  have hsame : firstPresent? t (before ++ s :: after) = firstPresent? t (before ++ [s]) :=
    firstPresent?_append_cons_of_not_isMissing hmissing
  refine ⟨hsame, ?_⟩
  have hfound : (firstPresent? t (before ++ [s])).isSome = true := by
    rw [firstPresent?_append, firstPresent?_cons_of_not_isMissing hmissing, Option.isSome_or]
    apply Bool.or_true
  obtain ⟨⟨loaded, result⟩, hloaded⟩ := Option.isSome_iff_exists.mp hfound
  obtain ⟨hmem, rfl⟩ := schemaOfSource_of_firstPresent? hloaded
  refine ⟨loaded, hmem, ?_⟩
  apply loadFirst_of_firstPresent?
  rw [hsame, hloaded]

/-- A flag table that is no text is reported, although the bundled tables come later. -/
theorem loadFirst_stops_at_flagTable_faulty :
  let t : FileTree := ⟨[([utf8 ['f']], .file { text := none })], []⟩
  let s : Source := .files (.ofText ['f']) (.ofText ['v'])
  s.HasFlagTable t ∧ loadFirst t [s, .bundled] = .error (.file .notText)
  := by
  intro t s
  have htable : s.HasFlagTable t := by
    rintro p ⟨⟩
    exact ⟨_, rfl⟩
  have hpair : ¬ (Source.files (.ofText ['f']) (.ofText ['v'])).LacksValidators t := by
    rintro ⟨hflags, -⟩
    contradiction
  obtain ⟨hstops, -⟩ := loadFirst_stops_at_flagTable htable [] [.bundled]
  obtain ⟨-, loaded, hmem, hload⟩ := hstops hpair
  obtain rfl := List.mem_singleton.mp hmem
  refine ⟨htable, ?_⟩
  apply hload

/-- A flag table, which is no JSON, is replaced without a report by the one of a later source,
because it belongs to a pair without its validator table. -/
theorem exists_replaced_flagTable :
  let t : FileTree :=
    ⟨[([utf8 ['f']], .file { text := some ['['] }),
      ([flagsFile.bytes], .file { text := some ['[', ']'] })], []⟩
  let s : Source := .files (.ofText ['f']) (.ofText ['v'])
  s.HasFlagTable t ∧ ∃ db, loadFirst t [s, .directory (.ofText ['.'])] = .ok db
    ∧ db.origin.source = .directory (.ofText ['.'])
  := by
  intro t s
  constructor
  · rintro p ⟨⟩
    exact ⟨_, rfl⟩
  · refine ⟨_, rfl, rfl⟩

end Database

end DirectiveLint
