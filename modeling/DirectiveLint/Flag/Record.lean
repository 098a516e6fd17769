import DirectiveLint.Flag
import DirectiveLint.Flag.Encoding
import DirectiveLint.Json.Document

/-!
# Flag records

The entries of a flag table as they are written, and the flags that they denote.
-/

namespace DirectiveLint

/-- An entry of a flag table. -/
structure FlagRecord where
  /-- The long name. -/
  long : Option Text
  /-- The short name. -/
  short : Option Text
  /-- What the flag is for, in words. -/
  description : Option Text
  /-- The encoded shape of its value. -/
  values : Json

namespace FlagRecord

/-- The name under which the defects of a record are reported. -/
def label? (r : FlagRecord) : Option Text :=
  match r.long, r.short with
  | some long, _ => some (Flag.writeLong long)
  | none, some short => some (Flag.writeShort short)
  | none, none => none

/-- The flag that a record denotes. -/
def toFlag (r : FlagRecord) : Except SchemaError Flag :=
  match r.label? with
  | none => .error .missingFlagName
  | some label =>
    match ValueShape.decode r.values with
    | .error defect => .error (.invalidValueShape label defect)
    | .ok shape => .ok ⟨r.long, r.short, r.description, shape⟩

/-- The JSON form of a record. -/
def toJson (r : FlagRecord) : Json :=
  .object
    ([("long".toList, .ofText? r.long), ("short".toList, .ofText? r.short)]
      ++ (r.description.map fun d => ("description".toList, Json.string d)).toList
      ++ [("values".toList, r.values)])

/-- The record with the given fields; a missing one is like `null`.  Two levels of the
document are around a field. -/
def ofFields (long short description values : Option Json.Document) : Option FlagRecord := do
  let long ← (long.getD .null).textOrNull?
  let short ← (short.getD .null).textOrNull?
  let description ← (description.getD .null).textOrNull?
  let values ← (values.getD .null).value? (Json.depthLimit - 2)
  some ⟨long, short, description, values⟩

/-- The record that a document denotes: an object with some of the four keys, each at most
once, or the four fields in order, of which the last ones may be missing. -/
def ofDocument : Json.Document → Option FlagRecord
  | .object members => do
    let members ← Json.Document.keyedMembers? members
    let long ← Json.Document.member? members "long".toList
    let short ← Json.Document.member? members "short".toList
    let description ← Json.Document.member? members "description".toList
    let values ← Json.Document.member? members "values".toList
    ofFields long short description values
  | .array fields =>
    if fields.length ≤ 4 then ofFields fields[0]? fields[1]? fields[2]? fields[3]? else none
  | _ => none

/-- The records of a flag table, if the text is one. -/
def readTable? (t : Text) : Option (List FlagRecord) :=
  match Json.Document.read? t with
  | some (.array items) => items.mapM ofDocument
  | _ => none

end FlagRecord

end DirectiveLint
