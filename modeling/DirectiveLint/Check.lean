import DirectiveLint.Diagnostic
import DirectiveLint.Schema

/-!
# Checking a directive

The rules for one directive line.  `Directive.structural` reports what is wrong with the
slots before the value, `Directive.invalidValue?` what is wrong with the value.
-/

namespace DirectiveLint

namespace Directive

/-- The report that the flag is missing, over the whole line. -/
def missingFlag (d : Directive) (tag : Text) : Diagnostic :=
  Rule.missingFlag.broken ⟨0, d.lineLength⟩
    (tag ++ " flag is missing. Format should be one of the following:\n  ".toList
      ++ tag ++ " -<short_flag>[=values]\n  ".toList
      ++ tag ++ " --<long_flag>[=values]".toList)

/-- The report of a missing space after the tag. -/
def missingSpace? (d : Directive) (tag : Text) : Option Diagnostic :=
  if d.space = [] then
    some (Rule.missingSpace.broken (d.spaceSpan.visible d.lineLength)
      ("space missing after ".toList ++ tag))
  else none

/-- Where missing dashes are reported: at the space before the flag, or where that space
should have been. -/
def missingDashesStart (d : Directive) : Nat :=
  if d.space = [] then d.spaceSpan.start else d.flagSpan.start - 1

/-- The report of missing dashes. -/
def missingDashes? (d : Directive) : Option Diagnostic :=
  if d.dashes = [] then
    some (Rule.missingDashes.broken ⟨d.missingDashesStart, d.missingDashesStart + 1⟩
      "dashes missing on flag".toList)
  else none

/-- The report of a flag that is not in the table. -/
def unknownFlag (d : Directive) : Diagnostic :=
  Rule.unknownFlag.broken d.flagSpan ("unrecognized flag: ".toList ++ d.flag)

/-- The report of dashes that do not fit the kind of name. -/
def wrongDashes? (d : Directive) (r : Resolution) : Option Diagnostic :=
  let written : Span := ⟨d.dashesSpan.start, d.flagSpan.stop⟩
  match d.dashStyle with
  | .single =>
    if r.acceptsSingleDash then none
    else
      some (Rule.longFlagNeedsDoubleDash.broken written
        ("-- required for long flag: ".toList ++ d.flag))
  | .double =>
    if r.acceptsDoubleDash then none
    else
      some (Rule.shortFlagNeedsSingleDash.broken written
        ("- required for short flag: ".toList ++ d.flag))
  | .none => none

/-- The reports on the slots before the value, in a fixed order, and the flag that is meant.
Nothing else is reported of a line without a flag, and the dashes of a flag that is not in
the table are not judged. -/
def structural (d : Directive) (table : FlagTable) (tag : Text) :
    List Diagnostic × Option Flag :=
  if d.flag = [] then ([d.missingFlag tag], none)
  else
    let slots := (d.missingSpace? tag).toList ++ d.missingDashes?.toList
    let resolution := table.resolve d.flag
    if resolution.isKnown then
      (slots ++ (d.wrongDashes? resolution).toList, resolution.flagFor d.dashStyle)
    else (slots ++ [d.unknownFlag], none)

/-- The wording of a mismatch between a value and the shape that a flag asks for. -/
def mismatchMessage (f : Flag) (value expected : Text) : Mismatch → Text
  | .unexpectedValue =>
    f.canonicalName ++ " does not take a value (got \"".toList ++ value ++ "\")".toList
  | .ambiguous count =>
    "ambiguous value for ".toList ++ f.canonicalName ++ ": \"".toList ++ value
      ++ "\" matches ".toList ++ decimal count ++ " alternatives (".toList ++ expected
      ++ ")".toList
  | .element index element _ =>
    "invalid value for ".toList ++ f.canonicalName ++ ": element ".toList
      ++ decimal (index + 1) ++ " \"".toList ++ element
      ++ "\" does not match (expected ".toList ++ expected ++ ")".toList
  | _ =>
    if value = [] then
      "value required for ".toList ++ f.canonicalName ++ " (expected ".toList ++ expected
        ++ ")".toList
    else
      "invalid value for ".toList ++ f.canonicalName ++ ": \"".toList ++ value
        ++ "\" (expected ".toList ++ expected ++ ")".toList

/-- The report of a value that does not have the shape that a flag asks for. -/
def invalidValue? (d : Directive) (schema : Schema) (f : Flag) : Option Diagnostic :=
  (schema.mismatch? f.shape d.value).map fun m =>
    Rule.invalidValue.broken (d.valueSpan.visible d.lineLength)
      (mismatchMessage f d.value (schema.expected f.shape) m)

/-- All reports on a directive. -/
def diagnostics (d : Directive) (schema : Schema) (tag : Text) : List Diagnostic :=
  let (reports, flag) := d.structural schema.table tag
  reports ++ (flag.bind (d.invalidValue? schema)).toList

end Directive

end DirectiveLint
