import DirectiveLint.Json.Document
import DirectiveLint.Validator.Registry

/-!
# Validator tables

A validator table gives rules for names; `Registry.ofTable` adds the validators of a table
to the builtin ones, rule by rule in the order of the names.
-/

namespace DirectiveLint

/-- A detailed rule; exactly one of a pattern and a builtin kind makes it sound. -/
structure ValidatorRule where
  /-- The written pattern. -/
  pattern : Option Text
  /-- The name of a builtin kind. -/
  builtin : Option Text
  /-- What the validator accepts, in words. -/
  description : Option Text
  deriving DecidableEq, Repr

/-- What a table says about a name. -/
inductive ValidatorSpec where
  /-- A written pattern. -/
  | pattern (written : Text)
  /-- A detailed rule. -/
  | rule (r : ValidatorRule)
  deriving DecidableEq, Repr

/-- Rules under the names of validators. -/
abbrev ValidatorTable := TextMap ValidatorSpec

namespace ValidatorSpec

/-- The rule with the given fields; a missing one is like `null`. -/
def ofFields (pattern builtin description : Option Json.Document) : Option ValidatorSpec := do
  let pattern ← (pattern.getD .null).textOrNull?
  let builtin ← (builtin.getD .null).textOrNull?
  let description ← (description.getD .null).textOrNull?
  some (.rule ⟨pattern, builtin, description⟩)

/-- The rule that a document denotes: a pattern, an object with some of the three keys, each
at most once, or the three fields in order, of which the last ones may be missing.  All of
the document has to be a value, also what the rule does not use. -/
def ofDocument (d : Json.Document) : Option ValidatorSpec := do
  let _ ← d.value? (Json.depthLimit - 1)
  match d with
  | .string pieces => (Json.textOfPieces? pieces).map .pattern
  | .object members =>
    let members ← Json.Document.keyedMembers? members
    let pattern ← Json.Document.member? members "pattern".toList
    let builtin ← Json.Document.member? members "builtin".toList
    let description ← Json.Document.member? members "description".toList
    ofFields pattern builtin description
  | .array fields =>
    if fields.length ≤ 3 then ofFields fields[0]? fields[1]? fields[2]? else none
  | _ => none

/-- The JSON form of what a table says about a name. -/
def toJson : ValidatorSpec → Json
  | pattern written => .string written
  | rule r =>
    .object
      ((r.pattern.map fun t => ("pattern".toList, Json.string t)).toList
        ++ (r.builtin.map fun t => ("builtin".toList, Json.string t)).toList
        ++ (r.description.map fun t => ("description".toList, Json.string t)).toList)

/-- The validator that a table gives to a name. -/
def toValidator (name : Text) : ValidatorSpec → Except SchemaError Validator
  | pattern written => Validator.ofPattern name written
  | rule ⟨some written, none, _⟩ => Validator.ofPattern name written
  | rule ⟨none, some kind, _⟩ =>
    match Builtin.ofName? kind with
    | some kind => .ok (.builtin kind)
    | none => .error (.unknownBuiltin name kind)
  | rule _ => .error (.invalidValidatorRule name)

/-- The description that a table gives to a name. -/
def description? : ValidatorSpec → Option Text
  | pattern _ => none
  | rule r => r.description

end ValidatorSpec

namespace ValidatorTable

/-- The JSON form of a table. -/
def toJson (table : ValidatorTable) : Json :=
  .object (List.map (fun (name, spec) => (name, spec.toJson)) table)

/-- The table that a text holds, if it is one.  Of a repeated name the last rule counts. -/
def read? (t : Text) : Option ValidatorTable :=
  match Json.Document.read? t with
  | some (.object members) => do
    let members ← Json.Document.keyedMembers? members
    let rules ← members.mapM fun (name, d) => (ValidatorSpec.ofDocument d).map (name, ·)
    some (.ofList rules)
  | _ => none

end ValidatorTable

namespace Registry

/-- The registry with the validator that a table gives to a name. -/
def addSpec (r : Registry) (name : Text) (spec : ValidatorSpec) : Except SchemaError Registry :=
  match spec.toValidator name with
  | .error defect => .error defect
  | .ok v =>
    match spec.description? with
    | some description => .ok ((r.register name v).describe name description)
    | none => .ok (r.register name v)

/-- The builtin validators and those of a table, or the first defect in the order of the
names. -/
def ofTable (table : ValidatorTable) : Except SchemaError Registry :=
  List.foldlM (fun r (name, spec) => addSpec r name spec) builtins table

end Registry

end DirectiveLint
