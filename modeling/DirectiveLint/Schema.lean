import DirectiveLint.Flag.Record
import DirectiveLint.FlagTable
import DirectiveLint.Validator.Table

/-!
# Schemas

A schema is a table of flags and a registry of validators that knows every validator which
the shapes of the flags name.
-/

namespace DirectiveLint

/-- A table of flags and the validators for their values. -/
structure Schema where
  /-- The flags. -/
  table : FlagTable
  /-- The validators. -/
  registry : Registry

namespace Schema

/-- The first validator that the shape of a flag names and the registry does not know. -/
def unknownValidator? (registry : Registry) (f : Flag) : Option SchemaError :=
  (f.shape.validatorNames.find? (!registry.contains ·)).map (.unknownValidator f.canonicalName)

/-- The schema of some flags, or the first defect: unknown validators in the order of the
flags, and then what `FlagTable.ofList` refuses. -/
def ofFlags (flags : List Flag) (registry : Registry) : Except SchemaError Schema :=
  match flags.findSome? (unknownValidator? registry) with
  | some defect => .error defect
  | none => (FlagTable.ofList flags).map (⟨·, registry⟩)

/-- The schema of two tables, or the first defect: in the validators, then in the records of
the flags, then in the schema as a whole. -/
def ofTables (records : List FlagRecord) (validators : ValidatorTable) :
    Except SchemaError Schema := do
  let registry ← Registry.ofTable validators
  let flags ← records.mapM FlagRecord.toFlag
  ofFlags flags registry

/-- A shape in words, with validators called by their descriptions. -/
def expected (s : Schema) (shape : ValueShape) : Text :=
  shape.describeWith s.registry.description

/-- Why a text does not have a shape. -/
def mismatch? (s : Schema) (shape : ValueShape) (text : Text) : Option Mismatch :=
  shape.mismatch? s.registry.accepts text

end Schema

end DirectiveLint
