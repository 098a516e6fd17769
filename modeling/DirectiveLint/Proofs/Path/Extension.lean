import DirectiveLint.Proofs.Path.Join
import DirectiveLint.Proofs.Text.Utf8

/-!
# Extensions of paths

The extension of a path is what stands behind the last dot of its last name, so there is no dot
and no slash in it.  Every text without these is the extension of some path
(`Path.extension?_append_cons`), and no other text is (`Path.isExtension_of_extension?`).
-/

namespace DirectiveLint.Path

variable {p : Path} {name : Bytes} {stem ext t : Text}

/-- The text can stand behind the last dot of a name. -/
def IsExtension (ext : Text) : Prop := '.' ∉ ext ∧ '/' ∉ ext

theorem dot_mem_utf8_iff :
  dot ∈ utf8 t ↔ '.' ∈ t
  := mem_utf8_iff (show '.'.toNat < 128 by decide)

theorem slash_mem_utf8_iff :
  slash ∈ utf8 t ↔ '/' ∈ t
  := mem_utf8_iff (show '/'.toNat < 128 by decide)

theorem extensionOf?_eq_some_iff {ext : Bytes} :
  extensionOf? name = some ext ↔ ∃ stem, stem ≠ [] ∧ name = stem ++ dot :: ext ∧ dot ∉ ext
  := by
  have hcut : ∀ before after, cutAt dot name.reverse = some (before, after)
      ↔ name = after.reverse ++ dot :: before.reverse ∧ dot ∉ before.reverse := by
    intro before after
    rw [cutAt_eq_some_iff, List.mem_reverse, List.reverse_eq_iff, List.reverse_append,
      List.reverse_cons, List.append_assoc, List.singleton_append]
  constructor
  · intro h
    unfold extensionOf? at h
    split at h
    · contradiction
    · contradiction
    · next before c after hbefore =>
      obtain rfl := Option.some.inj h
      use (c :: after).reverse, by simp
      apply (hcut before (c :: after)).mp hbefore
  · rintro ⟨stem, hne, hname, hdot⟩
    obtain ⟨c, after, hstem⟩ := List.exists_cons_of_ne_nil (List.reverse_ne_nil_iff.mpr hne)
    have hbefore : cutAt dot name.reverse = some (ext.reverse, c :: after) := by
      rw [hcut, ← hstem, List.reverse_reverse, List.reverse_reverse]
      exact ⟨hname, hdot⟩
    rw [extensionOf?, hbefore]
    apply congrArg some (List.reverse_reverse ext)

theorem fileName?_eq_some_iff :
  p.fileName? = some name ↔ p.components.getLast? = some (.name name)
  := by
  unfold fileName?
  split <;> simp_all

theorem extension?_eq_some_iff {ext : Bytes} :
  p.extension? = some ext
    ↔ ∃ stem, stem ≠ [] ∧ p.components.getLast? = some (.name (stem ++ dot :: ext)) ∧ dot ∉ ext
  := by
  rw [extension?, Option.bind_eq_some_iff]
  simp only [fileName?_eq_some_iff, extensionOf?_eq_some_iff]
  constructor
  · rintro ⟨name, hlast, stem, hne, rfl, hdot⟩
    exact ⟨stem, hne, hlast, hdot⟩
  · rintro ⟨stem, hne, hlast, hdot⟩
    exact ⟨_, hlast, stem, hne, rfl, hdot⟩

/-- There is no dot and no slash in the extension of a path. -/
theorem isExtension_of_extension? (h : p.extension? = some (utf8 ext)) :
  IsExtension ext
  := by
  obtain ⟨stem, -, hlast, hdot⟩ := extension?_eq_some_iff.mp h
  obtain ⟨hpiece, -⟩ := name_mem_components_iff.mp (List.mem_of_getLast? hlast)
  use mt dot_mem_utf8_iff.mpr hdot
  intro hslash
  apply not_mem_of_mem_pieces hpiece
  apply List.mem_append_right stem (List.mem_cons_of_mem dot (slash_mem_utf8_iff.mpr hslash))

/-- A text without dots and slashes is the extension of each name that ends in it, if the name
does not start with a dot. -/
theorem extension?_append_cons (h : IsExtension ext) (hne : stem ≠ [])
    (hhidden : stem.head? ≠ some '.') (hslash : '/' ∉ stem) :
  extension? (.ofText (stem ++ '.' :: ext)) = some (utf8 ext)
  := by
  have hbytes : utf8 (stem ++ '.' :: ext) = utf8 stem ++ dot :: utf8 ext := by
    rw [utf8_append, utf8_cons_of_lt (show '.'.toNat < 128 by decide)]
    rfl
  have hname : slash ∉ utf8 (stem ++ '.' :: ext) := by
    rw [slash_mem_utf8_iff]
    exact List.not_mem_append hslash (List.not_mem_cons_of_ne_of_not_mem (by decide) h.2)
  have hdots : ∀ bs, utf8 (stem ++ '.' :: ext) ≠ dot :: bs := by
    intro bs hdots
    have hhead : (stem ++ '.' :: ext).head? = some '.' := by
      rw [← head?_utf8_eq_some_iff (show '.'.toNat < 128 by decide), hdots]
      rfl
    rw [List.head?_append_of_ne_nil _ hne] at hhead
    apply hhidden hhead
  have hself := componentOf?_eq_some_name_iff.mpr ⟨rfl, by simp [hbytes], hdots _, hdots _⟩
  rw [extension?_eq_some_iff, ofText, components_of_isName hname hself, hbytes]
  exact ⟨_, utf8_ne_nil hne, rfl, mt dot_mem_utf8_iff.mp h.1⟩

end DirectiveLint.Path
