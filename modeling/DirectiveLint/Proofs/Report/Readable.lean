import DirectiveLint.Proofs.Directive.Reports
import DirectiveLint.Proofs.DocumentStore.History
import DirectiveLint.Proofs.FileTree.Walk
import DirectiveLint.Report

/-!
# Reports on files that can be read

`Linter.reportsOn` lists the files that can be read, each with the findings in its text.  The
report of a linter that checks any extension has exactly these files
(`Report.files_ofFiles`): the store of findings loses none of them.  All findings are counted
as errors, and a file that cannot be read makes no difference to what is written.
-/

namespace DirectiveLint

variable {t : FileTree} {l : Linter} {p : Path} {ps : List Path}

namespace Linter

/-- Every finding is an error. -/
theorem severity_of_mem_checkDocument {text : Text} :
  ∀ f ∈ l.checkDocument text, f.diagnostic.severity = .error
  := by
  intro f hf
  obtain ⟨⟨line, number⟩, -, hf⟩ := List.mem_flatMap.mp hf
  change f ∈ l.checkNumbered line number at hf
  unfold checkNumbered at hf
  split at hf
  · contradiction
  obtain ⟨r, hr, rfl⟩ := List.mem_map.mp hf
  unfold checkLine at hr
  split at hr
  · apply Directive.severity_of_mem_diagnostics r hr
  · contradiction

/-- The findings in the text of a file, if it can be read. -/
def reportOn? (l : Linter) (t : FileTree) (p : Path) : Option FileReport :=
  match t.readText p with
  | .ok text => some ⟨p, l.checkDocument text⟩
  | .error _ => none

/-- The files that can be read, each with the findings in its text. -/
def reportsOn (l : Linter) (t : FileTree) (ps : List Path) : List FileReport :=
  ps.filterMap (l.reportOn? t)

theorem reportOn?_eq_some_iff {r : FileReport} :
  l.reportOn? t p = some r ↔ ∃ text, t.readText p = .ok text ∧ ⟨p, l.checkDocument text⟩ = r
  := by
  unfold reportOn?
  cases t.readText p <;> simp

theorem reportOn?_eq_none_iff :
  l.reportOn? t p = none ↔ ∃ e, t.readText p = .error e
  := by
  unfold reportOn?
  cases t.readText p <;> simp

/-- A file that cannot be read leaves the others as they are. -/
theorem reportsOn_append_cons {before after : List Path} (h : l.reportOn? t p = none) :
  l.reportsOn t (before ++ p :: after) = l.reportsOn t (before ++ after)
  := by
  rw [reportsOn, List.filterMap_append, List.filterMap_cons_none h, ← List.filterMap_append]
  rfl

end Linter

namespace Report

open Linter

/-- What a store holds of a document with any extension are the findings in its text. -/
theorem ofText_withAnyExtension (text : Text) :
  ofText l.withAnyExtension p text = ⟨p, l.checkDocument text⟩
  := by
  have happlies : l.withAnyExtension.appliesTo p = true := rfl
  have hfind : (DocumentStore.lint [] l.withAnyExtension p text).find? p
      = some (l.checkDocument text) := by
    rw [DocumentStore.lint, if_pos happlies, DocumentStore.find?_publish,
      if_pos (Path.same_iff.mpr rfl)]
    rfl
  rw [ofText, hfind]
  rfl

theorem ofFile?_withAnyExtension :
  ofFile? t l.withAnyExtension p = l.reportOn? t p
  := by
  unfold ofFile? reportOn?
  cases t.readText p with
  | error e => rfl
  | ok text => apply congrArg some (ofText_withAnyExtension text)

/-- The files of a report are those that can be read, whatever their extensions. -/
theorem files_ofFiles :
  (ofFiles t l.withAnyExtension ps).files = l.reportsOn t ps
  := by
  rw [ofFiles, reportsOn]
  simp only [ofFile?_withAnyExtension]

/-- All findings are counted. -/
theorem errorCount_ofFiles :
  (ofFiles t l.withAnyExtension ps).errorCount
    = ((l.reportsOn t ps).flatMap FileReport.findings).length
  := by
  rw [errorCount, files_ofFiles, List.countP_eq_length]
  intro f hf
  obtain ⟨r, hr, hf⟩ := List.mem_flatMap.mp hf
  obtain ⟨p, -, hp⟩ := List.mem_filterMap.mp hr
  obtain ⟨text, -, rfl⟩ := reportOn?_eq_some_iff.mp hp
  rw [severity_of_mem_checkDocument f hf]
  rfl

/-- There are no errors exactly if no text of a file has findings. -/
theorem errorCount_ofFiles_eq_zero_iff :
  (ofFiles t l.withAnyExtension ps).errorCount = 0
    ↔ ∀ p ∈ ps, ∀ text, t.readText p = .ok text → l.checkDocument text = []
  := by
  rw [errorCount_ofFiles, List.length_eq_zero_iff, List.flatMap_eq_nil_iff, reportsOn]
  simp only [List.mem_filterMap, reportOn?_eq_some_iff]
  constructor
  · intro h p hp text htext
    apply h _ ⟨p, hp, text, htext, rfl⟩
  · rintro h _ ⟨p, hp, text, htext, rfl⟩
    apply h p hp text htext

theorem problemCount_ofFiles :
  (ofFiles t l.withAnyExtension ps).problemCount
    = (l.reportsOn t ps).countP fun r => r.findings ≠ []
  := by
  rw [problemCount, files_ofFiles]
  apply List.countP_congr
  intro r _
  simp

/-- No file is left out exactly if each of them can be read. -/
theorem unreadable_ofFiles_eq_nil_iff :
  (ofFiles t l ps).unreadable = [] ↔ ∀ p ∈ ps, ∃ text, t.readText p = .ok text
  := by
  rw [ofFiles, List.filterMap_eq_nil_iff]
  apply forall₂_congr
  intro p hp
  unfold reason?
  cases t.readText p <;> simp

/-- What is written depends on the files that could be read only. -/
theorem render_congr {r r' : Report} (h : r.files = r'.files) (format : OutputFormat) :
  r.render format = r'.render format
  := by
  cases format <;> simp only [render, h]

end Report

end DirectiveLint
