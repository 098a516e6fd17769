import DirectiveLint.Text.Quoted

/-!
# Defects of a schema

The causes for which tables of flags and validators do not make a schema, and their wording.
-/

namespace DirectiveLint

/-- Why a value of a table does not denote a shape. -/
inductive ShapeDefect where
  | boolean
  | number
  | bareArray
  | notOneKey
  | literalNotText
  | validatorNotText
  | unknownKind (key : Text)
  | notArray (key : Text)
  | emptyArray (key : Text)
  | extraKey (key : Text)
  | delimiterNotOneCharacter
  | delimiterNotText
  deriving DecidableEq, Repr

/-- The defect in words. -/
def ShapeDefect.message : ShapeDefect → Text
  | boolean => "unexpected boolean".toList
  | number => "unexpected number".toList
  | bareArray => "bare array; wrap alternatives in one_of or any_of".toList
  | notOneKey => "expected exactly one key per node".toList
  | literalNotText => "literal must be a string".toList
  | validatorNotText => "validator must be a string".toList
  | unknownKind key => "unknown node kind: ".toList ++ key
  | notArray key => key ++ " must be an array".toList
  | emptyArray key => key ++ " must not be empty".toList
  | extraKey key => "unexpected key in list node: ".toList ++ key
  | delimiterNotOneCharacter => "list delimiter must be a single character".toList
  | delimiterNotText => "list delimiter must be a string".toList

/-- Why tables do not make a schema. -/
inductive SchemaError where
  /-- A flag has neither a long nor a short name. -/
  | missingFlagName
  /-- A name could not be written on a directive line. -/
  | invalidFlagName (name : Text)
  /-- Two flags share a long name. -/
  | duplicateLongName (name : Text)
  /-- Two flags share a short name. -/
  | duplicateShortName (name : Text)
  /-- The shape of a flag names a validator that is not registered. -/
  | unknownValidator (flag validator : Text)
  /-- A validator rule names a kind that is not builtin. -/
  | unknownBuiltin (validator kind : Text)
  /-- The pattern of a validator cannot be read. -/
  | invalidPattern (validator : Text)
  /-- A validator rule has both a pattern and a builtin kind, or neither. -/
  | invalidValidatorRule (validator : Text)
  /-- The values of a flag do not denote a shape. -/
  | invalidValueShape (flag : Text) (defect : ShapeDefect)
  /-- The tag of directives is empty. -/
  | emptyTag
  deriving DecidableEq, Repr

/-- The cause in words. -/
def SchemaError.message : SchemaError → Text
  | missingFlagName => "flag must define a long or short name".toList
  | invalidFlagName name => "invalid flag name: ".toList ++ quoted name
  | duplicateLongName name => "duplicate long flag: --".toList ++ name
  | duplicateShortName name => "duplicate short flag: -".toList ++ name
  | unknownValidator flag validator =>
    "flag ".toList ++ flag ++ " references unknown validator: ".toList ++ validator
  | unknownBuiltin validator kind =>
    "validator ".toList ++ validator ++ " references unknown builtin: ".toList ++ kind
  | invalidPattern validator =>
    "validator ".toList ++ validator ++ " has an invalid pattern".toList
  | invalidValidatorRule validator =>
    "validator ".toList ++ validator
      ++ " must define exactly one of `pattern` or `builtin`".toList
  | invalidValueShape flag defect =>
    "flag ".toList ++ flag ++ " has an invalid value schema: ".toList ++ defect.message
  | emptyTag => "directive tag cannot be empty".toList

end DirectiveLint
