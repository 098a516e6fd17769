import DirectiveLint.Proofs.Database.Fallback

/-!
# The first source that is not missing

`Database.Finds` says what a search among some sources gives, without reference to how they
are tried: what the first source gives that does not fail because something was not found, or
a failure that lists all sources if there is no such source.  The search gives exactly this
(`Database.loadFirst_eq_iff`), so missing sources and sources behind the one that is found
make no difference to the schema or the error.
-/

namespace DirectiveLint.Database

variable {t : FileTree} {s : Source} {sources sources' : List Source} {e : LoadError}

/-! ### Loading one source -/

/-- A source is missing if loading it fails because something was not found. -/
theorem isMissing_iff_load :
  IsMissing t s ↔ load t s = .error (.file .notFound)
  := by
  unfold IsMissing load
  constructor
  · rintro ⟨e, hs, he⟩
    cases e with
    | file cause => rw [hs, isMissing_file_iff.mp he]; rfl
    | json => contradiction
    | yaml => contradiction
    | schema cause => contradiction
    | config cause => contradiction
    | noSource tried => contradiction
  · intro h
    cases hs : schemaOfSource t s with
    | error e =>
      rw [hs] at h
      obtain rfl := Except.error.inj h
      exact ⟨_, rfl, rfl⟩
    | ok schema =>
      rw [hs] at h
      contradiction

/-- One source alone gives no list of sources that were tried. -/
theorem schemaOfSource_ne_noSource {tried : List Source} :
  schemaOfSource t s ≠ .error (.noSource tried)
  := by
  intro h
  cases s with
  | directory p =>
    rw [schemaOfSource, schemaOfDirectory] at h
    split at h
    · cases Except.error.inj h
    · split at h
      · cases isFault_schemaOfTexts h
      · cases isFault_schemaOfTexts h
      · cases Except.error.inj h
  | files flags validators =>
    rw [schemaOfSource, schemaOfFiles] at h
    split at h
    · cases Except.error.inj h
    · split at h
      · cases Except.error.inj h
      · cases isFault_schemaOfTexts h
  | bundled =>
    rw [schemaOfSource, bundledSchema] at h
    cases isFault_mapError h

/-! ### The search -/

theorem firstPresent?_eq_none_iff :
  firstPresent? t sources = none ↔ ∀ s ∈ sources, IsMissing t s
  := by
  induction sources with
  | nil =>
    apply iff_of_true rfl
    intro s hs
    contradiction
  | cons first sources ih =>
    rw [List.forall_mem_cons, ← ih]
    by_cases h : IsMissing t first
    · rw [firstPresent?_cons_of_isMissing h, and_iff_right h]
    · rw [firstPresent?_cons_of_not_isMissing h]
      apply iff_of_false
      · nofun
      · rintro ⟨hfirst, -⟩
        apply h hfirst

theorem map_schemaOfSource (origin : Origin) :
  (schemaOfSource t s).map (⟨·, origin⟩) = (load t s).map fun db => { db with origin }
  := by
  rw [load]
  cases schemaOfSource t s <;> rfl

/-- What a search among some sources gives. -/
inductive Finds (t : FileTree) (sources : List Source) : Except LoadError Database → Prop where
  /-- What the first source gives that does not fail because something was not found.  The
  origin lists all sources. -/
  | first {before after : List Source} {s : Source} (hsources : sources = before ++ s :: after)
      (hbefore : ∀ b ∈ before, load t b = .error (.file .notFound))
      (hs : load t s ≠ .error (.file .notFound)) :
    Finds t sources ((load t s).map fun db => { db with origin := originAmong sources s })
  /-- All sources fail in this way. -/
  | allMissing (h : ∀ s ∈ sources, load t s = .error (.file .notFound)) :
    Finds t sources (.error (.noSource sources))

theorem finds_loadFirst (t : FileTree) (sources : List Source) :
  Finds t sources (loadFirst t sources)
  := by
  cases h : firstPresent? t sources with
  | none =>
    rw [loadFirst, h]
    apply Finds.allMissing
    intro s hs
    apply isMissing_iff_load.mp
    apply firstPresent?_eq_none_iff.mp h s hs
  | some found =>
    obtain ⟨s, result⟩ := found
    obtain ⟨before, after, hsources, hbefore, hs, rfl⟩ := exists_append_of_firstPresent? h
    rw [loadFirst_of_firstPresent? h, map_schemaOfSource]
    apply Finds.first hsources
    · intro b hb
      apply isMissing_iff_load.mp (hbefore b hb)
    · apply (not_congr isMissing_iff_load).mp hs

/-- The search gives nothing else. -/
theorem Finds.eq_loadFirst {result : Except LoadError Database} (h : Finds t sources result) :
  loadFirst t sources = result
  := by
  cases h with
  | @first before after s hsources hbefore hs =>
    have hnone : firstPresent? t before = none := by
      apply firstPresent?_eq_none_iff.mpr
      intro b hb
      apply isMissing_iff_load.mpr (hbefore b hb)
    have hfound : firstPresent? t sources = some (s, schemaOfSource t s) := by
      rw [hsources, firstPresent?_append, hnone, Option.none_or]
      apply firstPresent?_cons_of_not_isMissing ((not_congr isMissing_iff_load).mpr hs)
    rw [loadFirst_of_firstPresent? hfound, map_schemaOfSource]
  | allMissing h =>
    have hnone : firstPresent? t sources = none := by
      apply firstPresent?_eq_none_iff.mpr
      intro s hs
      apply isMissing_iff_load.mpr (h s hs)
    rw [loadFirst, hnone]

theorem loadFirst_eq_iff {result : Except LoadError Database} :
  loadFirst t sources = result ↔ Finds t sources result
  := by
  constructor
  · rintro rfl
    apply finds_loadFirst
  · apply Finds.eq_loadFirst

/-- The failure that lists sources lists all of them, and arises only if all are missing. -/
theorem loadFirst_eq_noSource_iff {tried : List Source} :
  loadFirst t sources = .error (.noSource tried)
    ↔ tried = sources ∧ ∀ s ∈ sources, load t s = .error (.file .notFound)
  := by
  constructor
  · intro h
    cases hfound : firstPresent? t sources with
    | none =>
      rw [loadFirst, hfound] at h
      cases Except.error.inj h
      refine ⟨rfl, ?_⟩
      intro s hs
      apply isMissing_iff_load.mp
      apply firstPresent?_eq_none_iff.mp hfound s hs
    | some found =>
      obtain ⟨s, result⟩ := found
      obtain ⟨-, hs⟩ := schemaOfSource_of_firstPresent? hfound
      rw [loadFirst_of_firstPresent? hfound] at h
      cases result with
      | error e =>
        cases Except.error.inj h
        cases schemaOfSource_ne_noSource hs
      | ok schema => contradiction
  · rintro ⟨rfl, h⟩
    apply Finds.eq_loadFirst
    apply Finds.allMissing h

/-- A success over several sources lists all of them and the one that was loaded. -/
theorem origin_of_loadFirst {db : Database} (h : loadFirst t sources = .ok db)
    (hsources : 1 < sources.length) :
  ∃ s ∈ sources, db.origin = .chain sources s ∧ load t s = .ok ⟨db.schema, .direct s⟩
  := by
  cases hfound : firstPresent? t sources with
  | none =>
    rw [loadFirst, hfound] at h
    contradiction
  | some found =>
    obtain ⟨s, result⟩ := found
    obtain ⟨hmem, hs⟩ := schemaOfSource_of_firstPresent? hfound
    rw [loadFirst_of_firstPresent? hfound] at h
    cases result with
    | error e => contradiction
    | ok schema =>
      obtain rfl := Except.ok.inj h
      refine ⟨s, hmem, if_pos hsources, ?_⟩
      rw [load, hs]
      rfl

/-! ### Two searches -/

/-- The results of two searches are the same, apart from the sources that are listed as
tried. -/
inductive SameResult : Except LoadError Database → Except LoadError Database → Prop where
  /-- The same schema from the same source. -/
  | ok {db db' : Database} (hschema : db.schema = db'.schema)
      (hsource : db.origin.source = db'.origin.source) :
    SameResult (.ok db) (.ok db')
  /-- The same error. -/
  | error (e : LoadError) : SameResult (.error e) (.error e)
  /-- All sources are missing. -/
  | noSource (tried tried' : List Source) :
    SameResult (.error (.noSource tried)) (.error (.noSource tried'))

theorem source_originAmong :
  (originAmong sources s).source = s
  := by
  unfold originAmong
  split <;> rfl

theorem sameResult_of_firstPresent?_eq
    (h : firstPresent? t sources = firstPresent? t sources') :
  SameResult (loadFirst t sources) (loadFirst t sources')
  := by
  cases hfound : firstPresent? t sources' with
  | none =>
    rw [hfound] at h
    rw [loadFirst, loadFirst, h, hfound]
    apply SameResult.noSource
  | some found =>
    obtain ⟨s, result⟩ := found
    rw [hfound] at h
    rw [loadFirst_of_firstPresent? h, loadFirst_of_firstPresent? hfound]
    cases result with
    | error e => apply SameResult.error
    | ok schema =>
      apply SameResult.ok
      · rfl
      · rw [source_originAmong, source_originAmong]

/-- The search gives what the first source gives whose load does not fail because something
was not found, and it fails with the list of all sources exactly if each of them does.  So
neither a missing source, wherever it stands, nor any sources behind one that is not missing
make a difference, apart from that list.  A success over several sources has all of them in
its origin, together with the one that was loaded. -/
theorem loadFirst_loads_first_present (t : FileTree) (sources : List Source) :
  (∀ result, loadFirst t sources = result ↔ Finds t sources result)
    ∧ (∀ tried, loadFirst t sources = .error (.noSource tried)
      ↔ tried = sources ∧ ∀ s ∈ sources, load t s = .error (.file .notFound))
    ∧ (∀ before s after, sources = before ++ after → load t s = .error (.file .notFound) →
      SameResult (loadFirst t (before ++ s :: after)) (loadFirst t sources))
    ∧ (∀ before s after later, sources = before ++ s :: after →
      load t s ≠ .error (.file .notFound) →
      SameResult (loadFirst t (before ++ s :: later)) (loadFirst t sources))
    ∧ ∀ db, loadFirst t sources = .ok db → 1 < sources.length →
      ∃ s ∈ sources, db.origin = .chain sources s ∧ load t s = .ok ⟨db.schema, .direct s⟩
  := by
  refine ⟨fun _ => loadFirst_eq_iff, fun _ => loadFirst_eq_noSource_iff, ?_, ?_,
    fun _ => origin_of_loadFirst⟩
  · rintro before s after rfl hs
    apply sameResult_of_firstPresent?_eq
    apply firstPresent?_append_cons_of_isMissing (isMissing_iff_load.mpr hs)
  · rintro before s after later rfl hs
    apply sameResult_of_firstPresent?_eq
    have hmissing : ¬ IsMissing t s := (not_congr isMissing_iff_load).mpr hs
    apply Eq.trans (firstPresent?_append_cons_of_not_isMissing hmissing)
    symm
    apply firstPresent?_append_cons_of_not_isMissing hmissing

/-- Of a missing directory, the working directory and the bundled tables, the second is loaded,
as if it were the only source. -/
theorem loadFirst_loads_first_present_site :
  let t : FileTree := ⟨[([flagsFile.bytes], .file { text := some ['[', ']'] })], []⟩
  let missing : Source := .directory (.ofText ['m'])
  let site : Source := .directory (.ofText ['.'])
  load t missing = .error (.file .notFound) ∧ load t site ≠ .error (.file .notFound)
    ∧ SameResult (loadFirst t [missing, site]) (loadFirst t [site])
    ∧ SameResult (loadFirst t [missing, site, .bundled]) (loadFirst t [missing, site])
    ∧ ∃ db, loadFirst t [missing, site] = .ok db ∧ ∃ s ∈ [missing, site],
      db.origin = .chain [missing, site] s ∧ load t s = .ok ⟨db.schema, .direct s⟩
  := by
  intro t missing site
  have hmissing : load t missing = .error (.file .notFound) := rfl
  have hsite : load t site ≠ .error (.file .notFound) := nofun
  obtain ⟨-, -, hinsert, -, -⟩ := loadFirst_loads_first_present t [site]
  obtain ⟨-, -, -, hbehind, horigin⟩ := loadFirst_loads_first_present t [missing, site]
  refine ⟨hmissing, hsite, ?_, ?_, _, rfl, ?_⟩
  · apply hinsert [] missing [site] rfl hmissing
  · apply hbehind [missing] site [] [.bundled] rfl hsite
  · apply horigin _ rfl
    decide

end DirectiveLint.Database
