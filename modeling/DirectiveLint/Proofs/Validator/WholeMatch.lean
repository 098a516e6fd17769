import DirectiveLint.Proofs.Pattern.Anchored
import DirectiveLint.Proofs.Validator.History

/-!
# Validators that match whole values

The validator of a text that is a pattern alone, apart from the size of its automata, accepts
the texts that the pattern matches from start to end.  A validator is also made of some texts
that are no patterns alone: of those that close the group that they are put in
(`Registry.registerPattern_cases`).
-/

namespace DirectiveLint

open Pattern (part? depthLimit)

variable {name written : Text} {v : Validator}

/-- What is found between anchors is what can be read alone, matched as a whole, or it comes
from a pattern that closes the group between them. -/
theorem Validator.accepts_ofPattern (h : Validator.ofPattern name written = .ok v) :
  (∃ part, part? written = some part ∧ part.depth ≤ depthLimit
      ∧ ∀ t, v.accepts t = true ↔ part.regex.Matches t 0 t.length)
    ∨ part? written = none
      ∧ ∃ inner rest, written = inner ++ ')' :: rest ∧ (part? inner).isSome = true
  := by
  unfold Validator.ofPattern Pattern.ofWritten? at h
  cases hread : Pattern.read? (Pattern.anchored written) with
  | none =>
    rw [hread] at h
    contradiction
  | some regex =>
    rw [hread] at h
    obtain rfl := Except.ok.inj h
    rcases Pattern.read?_anchored_cases hread with ⟨part, hpart, hdepth, rfl⟩ | hclosed
    · exact .inl ⟨part, hpart, hdepth, fun _ => Pattern.Regex.foundIn_anchored_iff⟩
    · exact .inr hclosed

namespace Registry

theorem accepts_register (r : Registry) (name : Text) (v : Validator) (t : Text) :
  (r.register name v).accepts name t = v.accepts t
  := by
  have hfind : (r.register name v).find? name = some v := by
    rw [find?, find?_entries_register, if_pos rfl]
    rfl
  rw [accepts, hfind]
  rfl

/-- A pattern that cannot be read between its anchors is refused, by itself and by every
registry.  Any other makes a validator, which every registry puts under its name.  If the
pattern is one alone, apart from the size of its automata, then its depth is bearable too
(`Pattern.read?_eq_some_iff` lists all that is asked of it), and the validator accepts exactly
the texts that the pattern matches from their start to their end.  If it is none alone, then a
part of it is, and the parenthesis behind that part closes the group that the pattern is put
in. -/
theorem registerPattern_cases (name written : Text) :
  (Validator.ofPattern name written = .error (.invalidPattern name)
      ∧ ∀ r : Registry, r.registerPattern name written = .error (.invalidPattern name))
    ∨ ∃ v, Validator.ofPattern name written = .ok v
      ∧ (∀ r : Registry, r.registerPattern name written = .ok (r.register name v)
        ∧ ∀ t, (r.register name v).accepts name t = v.accepts t)
      ∧ ((∃ part, part? written = some part ∧ part.depth ≤ depthLimit
          ∧ ∀ t, v.accepts t = true ↔ part.regex.Matches t 0 t.length)
        ∨ part? written = none
          ∧ ∃ inner rest, written = inner ++ ')' :: rest ∧ (part? inner).isSome = true)
  := by
  cases h : Pattern.ofWritten? written with
  | none =>
    left
    refine ⟨?_, fun _ => registerPattern_of_eq_none h⟩
    rw [Validator.ofPattern, h]
  | some p =>
    right
    have hv : Validator.ofPattern name written = .ok (.pattern p) := by
      rw [Validator.ofPattern, h]
    refine ⟨.pattern p, hv, fun r => ⟨?_, r.accepts_register name _⟩,
      Validator.accepts_ofPattern hv⟩
    rw [registerPattern, hv]
    rfl

/-- Alternatives are held together between the anchors. -/
example :
  let r := (empty.registerPattern "x".toList "a|b".toList).toOption.getD empty
  r.accepts "x".toList "b".toList = true ∧ r.accepts "x".toList "ab".toList = false
  := by decide +kernel

/-- A pattern that closes the group and opens another one is registered, though it cannot be
read alone.  Its halves are not anchored together: it accepts a text of which one of them
matches a part. -/
theorem exists_registerPattern_closing :
  ∃ r, empty.registerPattern "x".toList "a)|(b".toList = .ok r
    ∧ Pattern.read? "a)|(b".toList = none
    ∧ r.accepts "x".toList "axyz".toList = true
  := by
  obtain ⟨v, hv⟩ : ∃ v, Pattern.ofWritten? "a)|(b".toList = some v := by
    apply Option.isSome_iff_exists.mp
    decide +kernel
  have hunread : Pattern.read? "a)|(b".toList = none := by decide +kernel
  have haccepts : (Pattern.ofWritten? "a)|(b".toList).any (·.accepts "axyz".toList) = true := by
    decide +kernel
  rw [hv] at haccepts
  refine ⟨empty.register "x".toList (.pattern v), ?_, hunread, ?_⟩
  · rw [registerPattern, Validator.ofPattern, hv]
    rfl
  · rw [accepts_register]
    apply haccepts

end Registry

end DirectiveLint
