import DirectiveLint.CommandLine.Run
import DirectiveLint.Proofs.Config.Extensions
import DirectiveLint.Proofs.Config.Reload
import DirectiveLint.Proofs.Json.Reading
import DirectiveLint.Proofs.Report.Collection
import DirectiveLint.Proofs.Report.Readable

/-!
# Checking scripts

A check whose configuration and tables can be loaded, and for which there is something at each
of its paths, gives a report on the files that are found there, unless a directory cannot be gone
through.  `CommandLine.Reported` says what it writes and how it ends: every finding is reported,
and it succeeds exactly if there is nothing to report and every file could be read.
-/

namespace DirectiveLint

namespace Config

variable {t : FileTree} {p : Path} {c c' : Config}

/-- A configuration that was loaded has no defect. -/
theorem defect?_of_load (h : load t p = .ok c) :
  c.defect? = none
  := by
  obtain ⟨text, written, -, -, hdefect, rfl⟩ := load_eq_ok_iff.mp h
  rw [defect?_takenFrom, hdefect]

end Config

namespace CommandLine

variable {t : FileTree} {o : SchemaOptions} {c : Config} {db : Database} {l : Linter}
  {format : OutputFormat} {allFiles : Bool} {inputs : List Path} {scripts : PathSet}

/-! ### Loading -/

theorem SchemaOptions.load_eq_ok_iff :
  o.load t = .ok (c, db) ↔ o.loadConfig t = .ok c ∧ o.loadDatabase t c = .ok db
  := by
  simp only [load, bind_eq_ok_iff, Except.ok.injEq, Prod.mk.injEq]
  constructor
  · rintro ⟨c', hc, db', hdb, rfl, rfl⟩
    exact ⟨hc, hdb⟩
  · rintro ⟨hc, hdb⟩
    exact ⟨c, hc, db, hdb, rfl, rfl⟩

theorem mapError_eq_ok_iff {ε ε' α : Type} {f : ε → ε'} {x : Except ε α} {a : α} :
  x.mapError f = .ok a ↔ x = .ok a
  := by
  cases x <;> simp [Except.mapError]

/-- The configuration that a command uses has no defect. -/
theorem SchemaOptions.defect?_of_loadConfig (h : o.loadConfig t = .ok c) :
  c.defect? = none
  := by
  unfold loadConfig at h
  split at h
  · apply Config.defect?_of_load (mapError_eq_ok_iff.mp h)
  · obtain rfl := Except.ok.inj h
    rfl

/-! ### Outcomes -/

/-- What a check of some scripts writes, and how it ends. -/
structure Reported (t : FileTree) (l : Linter) (scripts : List Path) (format : OutputFormat)
    (outcome : Outcome) : Prop where
  /-- It succeeds exactly if every script is a file with a text in which nothing is found. -/
  status_eq_zero_iff : outcome.status = 0
    ↔ ∀ p ∈ scripts, ∃ text, t.readText p = .ok text ∧ l.checkDocument text = []
  /-- The lines of text are those of the findings, file by file. -/
  text : format = .text →
    outcome.output = (l.reportsOn t scripts).flatMap fun r =>
      r.findings.flatMap fun f => f.describe r.path ++ ['\n']
  /-- The data that is read from the output has one entry for each file, and in it one for each
  finding: where it starts, counted from one, the code of its rule, how grave it is, what is said
  of it, and the bytes of the line that it is about. -/
  json : format = .json →
    ∃ d, Json.Document.read? outcome.output = some d
      ∧ d.Holds (.array ((l.reportsOn t scripts).map fun r => .object
        [("path".toList, .string r.path.display),
          ("diagnostics".toList, .array (r.findings.map fun f => .object
            [("line".toList, .ofNat (f.line + 1)),
              ("column".toList, .ofNat (f.diagnostic.span.start + 1)),
              ("code".toList, .string f.diagnostic.rule.code),
              ("severity".toList, .string f.diagnostic.severity.name),
              ("message".toList, .string f.diagnostic.message),
              ("span".toList, .object
                [("start".toList, .ofNat f.diagnostic.span.start),
                  ("end".toList, .ofNat f.diagnostic.span.stop)])]))]))
  /-- The last message before a failure counts the files, the findings and the files with
  findings. -/
  summary : outcome.messages.getLast? = some ("Checked ".toList
    ++ decimal (l.reportsOn t scripts).length ++ " files: ".toList
    ++ decimal ((l.reportsOn t scripts).flatMap FileReport.findings).length
    ++ " errors in ".toList
    ++ decimal ((l.reportsOn t scripts).countP fun r => r.findings ≠ []) ++ " files".toList)
  /-- It fails if a script cannot be read. -/
  status_of_unreadable : ∀ p ∈ scripts, l.reportOn? t p = none → outcome.status = 1

theorem Outcome.status_eq_zero_iff {outcome : Outcome} :
  outcome.status = 0 ↔ outcome.failure = none
  := by
  unfold status
  cases outcome.failure <;> simp

theorem Outcome.status_eq_one_iff {outcome : Outcome} :
  outcome.status = 1 ↔ outcome.failure ≠ none
  := by
  unfold status
  cases outcome.failure <;> simp

theorem failureOf_eq_none_iff {r : Report} :
  failureOf r = none ↔ r.unreadable = [] ∧ r.errorCount = 0
  := by
  unfold failureOf
  split
  · simp_all
  · split <;> simp_all

/-- A check succeeds exactly if every script can be read and no text has findings. -/
theorem failureOf_ofFiles_eq_none_iff :
  failureOf (.ofFiles t l.withAnyExtension scripts) = none
    ↔ ∀ p ∈ scripts, ∃ text, t.readText p = .ok text ∧ l.checkDocument text = []
  := by
  rw [failureOf_eq_none_iff, Report.unreadable_ofFiles_eq_nil_iff,
    Report.errorCount_ofFiles_eq_zero_iff]
  constructor
  · rintro ⟨hread, hfindings⟩ p hp
    obtain ⟨text, htext⟩ := hread p hp
    exact ⟨text, htext, hfindings p hp text htext⟩
  · intro h
    constructor
    · intro p hp
      obtain ⟨text, htext, -⟩ := h p hp
      exact ⟨text, htext⟩
    · intro p hp text htext
      obtain ⟨text', htext', hfindings⟩ := h p hp
      obtain rfl := Except.ok.inj (htext.symm.trans htext')
      apply hfindings

/-- All numbers in the data on some files are natural. -/
theorem natural_toJson (rs : List FileReport) :
  ∀ v ∈ rs.map FileReport.toJson, v.Natural
  := by
  rw [List.forall_mem_map]
  intro r _
  apply Json.Natural.object
  simp only [List.forall_mem_cons]
  refine ⟨.string _, .array ?_, List.forall_mem_nil _⟩
  rw [List.forall_mem_map]
  intro f _
  apply Json.Natural.object
  simp only [List.forall_mem_cons]
  refine ⟨.number _, .number _, .string _, .string _, .string _, .object ?_, List.forall_mem_nil _⟩
  simp only [List.forall_mem_cons]
  exact ⟨.number _, .number _, List.forall_mem_nil _⟩

/-- The outcome of a check with a report on files of any extension. -/
theorem reported_ofReport :
  Reported t l scripts format (.ofReport (.ofFiles t l.withAnyExtension scripts) format)
  where
  status_eq_zero_iff := by
    rw [Outcome.status_eq_zero_iff]
    apply failureOf_ofFiles_eq_none_iff
  text := by
    rintro rfl
    rw [← Report.files_ofFiles]
    rfl
  json := by
    rintro rfl
    rw [← Report.files_ofFiles]
    exact Json.Document.exists_read?_layout (.array (natural_toJson _))
  summary := by
    rw [← Report.errorCount_ofFiles, ← Report.problemCount_ofFiles, ← Report.files_ofFiles]
    apply List.getLast?_concat
  status_of_unreadable := by
    intro p hp hunreadable
    rw [Outcome.status_eq_one_iff]
    intro hfailure
    obtain ⟨text, htext, -⟩ := failureOf_ofFiles_eq_none_iff.mp hfailure p hp
    obtain ⟨e, he⟩ := Linter.reportOn?_eq_none_iff.mp hunreadable
    cases htext.symm.trans he

/-- A check for which everything can be loaded collects its scripts and reports on them. -/
theorem run_check (hload : o.load t = .ok (c, db)) (hl : c.linter db = .ok l) :
  run t (.check o format allFiles inputs)
    = match collectScripts t l allFiles inputs with
      | .ok scripts => .ofReport (.ofFiles t l.withAnyExtension scripts) format
      | .error e => { failure := some (.collect e) }
  := by
  have hcheck : check t o allFiles inputs
      = ((collectScripts t l allFiles inputs).mapError .collect).map
        (.ofFiles t l.withAnyExtension) := by
    rw [check, hload]
    change ((c.linter db).mapError (Failure.load none) >>= _) = _
    rw [hl]
    rfl
  rw [run, hcheck]
  cases collectScripts t l allFiles inputs <;> rfl

/-! ### Runs -/

end CommandLine

end DirectiveLint
