import DirectiveLint.Config
import DirectiveLint.Proofs.Path.Extension

/-!
# The extensions that a configuration lists

A configuration without a defect selects a linter for the documents with the extensions that it
lists.  An extension in which there is a dot or a slash is no defect, but no document has it
(`Config.linter_appliesTo_iff`).
-/

namespace DirectiveLint.Config

variable {c : Config} {db : Database} {l : Linter} {p : Path}

/-- A configuration without a defect selects a linter. -/
theorem exists_linter (h : c.defect? = none) (db : Database) :
  ∃ l, c.linter db = .ok l
  := by
  have htag : c.tag ≠ [] := by
    intro htag
    rw [defect?, if_pos htag] at h
    contradiction
  rw [linter, Tag.ofText, dif_pos htag]
  exact ⟨_, rfl⟩

/-- The linter applies to the paths with one of the extensions, where dots in front of an
extension do not count. -/
theorem appliesTo_iff (h : c.linter db = .ok l) :
  l.appliesTo p = true ↔ ∃ ext ∈ c.extensions, p.extension? = some (utf8 (trimStart '.' ext))
  := by
  unfold linter at h
  split at h
  · contradiction
  · obtain rfl := Except.ok.inj h
    simp only [Linter.withExtensions, Linter.appliesTo, Bool.false_or, Option.any_eq_true,
      Option.bind_eq_some_iff, ofUtf8?_eq_some_iff, List.contains_iff_mem, List.mem_map]
    grind

/-- Every extension without dots and slashes behind those in front is usable, and there is no
document with another one. -/
theorem linter_appliesTo_iff (h : c.defect? = none) (db : Database) :
  ∃ l, c.linter db = .ok l
    ∧ (∀ p, l.appliesTo p = true
      ↔ ∃ ext ∈ c.extensions, p.extension? = some (utf8 (trimStart '.' ext)))
    ∧ ∀ ext ∈ c.extensions,
      (Path.IsExtension (trimStart '.' ext)
        ∧ l.appliesTo (.ofText ("job.".toList ++ trimStart '.' ext)) = true)
      ∨ (¬ Path.IsExtension (trimStart '.' ext)
        ∧ ∀ p : Path, p.extension? ≠ some (utf8 (trimStart '.' ext)))
  := by
  obtain ⟨l, hl⟩ := exists_linter h db
  refine ⟨l, hl, fun p => appliesTo_iff hl, ?_⟩
  intro ext hext
  by_cases hextension : Path.IsExtension (trimStart '.' ext)
  · left
    use hextension
    rw [appliesTo_iff hl]
    use ext, hext
    have hjob : Path.extension? (.ofText ("job".toList ++ '.' :: trimStart '.' ext))
        = some (utf8 (trimStart '.' ext)) := by
      apply Path.extension?_append_cons hextension <;> decide
    apply hjob
  · right
    use hextension
    intro p hp
    apply hextension (Path.isExtension_of_extension? hp)

/-- Of the extensions `..sh` and `tar.gz` only the first is usable. -/
theorem linter_appliesTo_iff_dots :
  let c : Config := { extensions := ["..sh".toList, "tar.gz".toList] }
  let db : Database := ⟨⟨⟨[], [], []⟩, .builtins⟩, .direct .bundled⟩
  c.defect? = none ∧ ∃ l, c.linter db = .ok l ∧ l.appliesTo (.ofText "job.sh".toList) = true
    ∧ ∀ p : Path, p.extension? ≠ some (utf8 "tar.gz".toList)
  := by
  intro c db
  have hc : c.defect? = none := by decide
  obtain ⟨l, hl, -, hall⟩ := linter_appliesTo_iff hc db
  obtain ⟨-, hsh⟩ | ⟨hnot, -⟩ := hall "..sh".toList List.mem_cons_self
  · obtain ⟨⟨hdot, -⟩, -⟩ | ⟨-, hnone⟩ := hall "tar.gz".toList (by decide)
    · cases hdot (by decide)
    · exact ⟨hc, l, hl, hsh, hnone⟩
  · cases hnot ⟨by decide, by decide⟩

/-- An extension with a dot inside is no defect, although the linter does not apply to the
documents whose names end in it. -/
theorem exists_unusable_extension :
  let c : Config := { extensions := ["tar.gz".toList] }
  let db : Database := ⟨⟨⟨[], [], []⟩, .builtins⟩, .direct .bundled⟩
  c.defect? = none ∧ ∃ l, c.linter db = .ok l ∧ l.appliesTo (.ofText "job.tar.gz".toList) = false
  := by
  intro c db
  exact ⟨by decide, _, rfl, by decide⟩

end DirectiveLint.Config
