import DirectiveLint.Span
import DirectiveLint.Text

/-!
# Diagnostics

A diagnostic names the rule that a directive line breaks, the bytes of the line it is
about, and says in words what is wrong.  A finding is a diagnostic on a line of a document.
-/

namespace DirectiveLint

/-- How grave a diagnostic is. -/
inductive Severity where
  | error
  | warning
  deriving DecidableEq, Repr

namespace Severity

/-- Every severity. -/
def all : List Severity := [.error, .warning]

/-- The word for a severity. -/
def name : Severity → Text
  | .error => "error".toList
  | .warning => "warning".toList

end Severity

/-- The rules for directive lines. -/
inductive Rule where
  /-- A directive names a flag. -/
  | missingFlag
  /-- A space follows the tag. -/
  | missingSpace
  /-- Dashes precede the flag. -/
  | missingDashes
  /-- The flag is in the table. -/
  | unknownFlag
  /-- A long name takes two dashes. -/
  | longFlagNeedsDoubleDash
  /-- A short name takes one dash. -/
  | shortFlagNeedsSingleDash
  /-- The value has the shape that the flag asks for. -/
  | invalidValue
  deriving DecidableEq, Repr

namespace Rule

/-- Every rule. -/
def all : List Rule :=
  [.missingFlag, .missingSpace, .missingDashes, .unknownFlag, .longFlagNeedsDoubleDash,
    .shortFlagNeedsSingleDash, .invalidValue]

/-- The code under which a rule is reported. -/
def code : Rule → Text
  | .missingFlag => "missing-flag".toList
  | .missingSpace => "missing-space".toList
  | .missingDashes => "missing-dashes".toList
  | .unknownFlag => "unknown-flag".toList
  | .longFlagNeedsDoubleDash => "long-flag-needs-double-dash".toList
  | .shortFlagNeedsSingleDash => "short-flag-needs-single-dash".toList
  | .invalidValue => "invalid-value".toList

/-- The severity with which a break of the rule is reported. -/
def severity (_ : Rule) : Severity := .error

end Rule

/-- A problem on one line. -/
structure Diagnostic where
  /-- The rule that is broken. -/
  rule : Rule
  /-- How grave the problem is. -/
  severity : Severity
  /-- What is wrong, in words. -/
  message : Text
  /-- The bytes of the line it is about. -/
  span : Span
  deriving DecidableEq, Repr

/-- The diagnostic for a break of a rule, with the severity of the rule. -/
def Rule.broken (rule : Rule) (span : Span) (message : Text) : Diagnostic where
  rule := rule
  severity := rule.severity
  message := message
  span := span

/-- A diagnostic on a line of a document. -/
structure Finding where
  /-- The number of the line, counted from zero. -/
  line : Nat
  /-- The problem on that line. -/
  diagnostic : Diagnostic
  deriving DecidableEq, Repr

/-- The line and the column of a finding, both counted from one. -/
def Finding.position (f : Finding) : Nat × Nat := (f.line + 1, f.diagnostic.span.start + 1)

end DirectiveLint
