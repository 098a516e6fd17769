import DirectiveLint.Pattern
import DirectiveLint.SchemaError
import DirectiveLint.Text.Order
import DirectiveLint.Validator.Builtin

/-!
# The registry of validators

Validators under their names, each with a description or without.  Registering a validator
replaces the one that had its name, description included.
-/

namespace DirectiveLint

/-- A named kind of value. -/
inductive Validator where
  /-- The texts in which a pattern is found. -/
  | pattern (p : Pattern)
  /-- The texts of a builtin kind. -/
  | builtin (kind : Builtin)
  /-- The texts that a host wants. -/
  | custom (accepts : Text → Bool)

namespace Validator

/-- A text is of the kind. -/
def accepts : Validator → Text → Bool
  | pattern p => p.accepts
  | builtin kind => kind.accepts
  | custom accepts => accepts

/-- The validator of a written pattern, for the validator with a name. -/
def ofPattern (name written : Text) : Except SchemaError Validator :=
  match Pattern.ofWritten? written with
  | some p => .ok (.pattern p)
  | none => .error (.invalidPattern name)

end Validator

/-- What is registered under a name. -/
structure Registration where
  /-- The validator. -/
  validator : Validator
  /-- What it accepts, in words. -/
  description : Option Text

/-- Validators under their names. -/
structure Registry where
  /-- The registrations. -/
  entries : TextMap Registration

namespace Registry

/-- The registry without validators. -/
def empty : Registry := ⟨[]⟩

/-- The registry with a validator put under a name, without a description. -/
def register (r : Registry) (name : Text) (v : Validator) : Registry :=
  ⟨r.entries.insert name ⟨v, none⟩⟩

/-- The registry of the builtin kinds under their own names. -/
def builtins : Registry :=
  Builtin.all.foldl (fun r kind => r.register kind.name (.builtin kind)) empty

/-- The registry with the validator of a written pattern put under a name. -/
def registerPattern (r : Registry) (name written : Text) : Except SchemaError Registry :=
  (Validator.ofPattern name written).map (r.register name)

/-- The registry with a description put to a registered name. -/
def describe (r : Registry) (name description : Text) : Registry :=
  ⟨r.entries.modify name fun e => { e with description := some description }⟩

/-- The validator under a name. -/
def find? (r : Registry) (name : Text) : Option Validator :=
  (r.entries.find? name).map (·.validator)

/-- A name is registered. -/
def contains (r : Registry) (name : Text) : Bool := r.entries.contains name

/-- A text is accepted by the validator under a name; an unknown name accepts nothing. -/
def accepts (r : Registry) (name text : Text) : Bool :=
  (r.find? name).any (·.accepts text)

/-- What the validator under a name accepts, in words: its description, or else that of its
builtin kind, or else the name. -/
def description (r : Registry) (name : Text) : Text :=
  match r.entries.find? name with
  | some ⟨_, some description⟩ => description
  | some ⟨.builtin kind, none⟩ => kind.description
  | _ => name

/-- The registered names in ascending order. -/
def names (r : Registry) : List Text := r.entries.keys

/-- The number of registered names. -/
def size (r : Registry) : Nat := r.entries.length

end Registry

end DirectiveLint
