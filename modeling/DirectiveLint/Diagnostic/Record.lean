import DirectiveLint.Diagnostic
import DirectiveLint.Json.Document

/-!
# Records of findings

The JSON form of findings: an object with the number of the line and the rule, severity,
message and span of the diagnostic.  Reading passes over other keys and refuses a key that
is missing or repeated.
-/

namespace DirectiveLint

namespace Json.Document

/-- A natural number written without point and exponent, below `2 ^ 64`. -/
def nat? : Document → Option Nat
  | number n =>
    match n.number? with
    | some (.integer i) => if 0 ≤ i then some i.toNat else none
    | _ => none
  | _ => none

/-- A text. -/
def text? : Document → Option Text
  | string pieces => textOfPieces? pieces
  | _ => none

/-- The name of a case without contents: a string, or an object whose one key is the name
and whose value is empty. -/
def caseName? : Document → Option Text
  | string pieces => textOfPieces? pieces
  | object [(key, null)] => textOfPieces? key
  | object [(key, object [])] => textOfPieces? key
  | _ => none

/-- The member with a key that has to be there once. -/
def needed? (members : List (Text × Document)) (key : Text) : Option Document :=
  (member? members key).join

end Json.Document

open Json (Document)

/-- The severity with a name. -/
def Severity.ofName? (name : Text) : Option Severity := all.find? (·.name = name)

/-- The rule with a code. -/
def Rule.ofCode? (code : Text) : Option Rule := all.find? (·.code = code)

/-- The span that a document denotes: an object with two keys, or two numbers. -/
def Span.ofDocument : Document → Option Span
  | .object members => do
    let members ← Document.keyedMembers? members
    let start ← (← Document.needed? members "start".toList).nat?
    let stop ← (← Document.needed? members "end".toList).nat?
    some ⟨start, stop⟩
  | .array [start, stop] => do
    let start ← start.nat?
    let stop ← stop.nat?
    some ⟨start, stop⟩
  | _ => none

/-- The JSON form of a span. -/
def Span.toJson (s : Span) : Json :=
  .object [("start".toList, .ofNat s.start), ("end".toList, .ofNat s.stop)]

namespace Finding

/-- The finding that a document denotes. -/
def ofDocument (d : Document) : Option Finding := do
  let _ ← d.value? Json.depthLimit
  match d with
  | .object members =>
    let members ← Document.keyedMembers? members
    let line ← (← Document.needed? members "line".toList).nat?
    let rule ← Rule.ofCode? (← (← Document.needed? members "rule".toList).caseName?)
    let severity ← Severity.ofName? (← (← Document.needed? members "severity".toList).caseName?)
    let message ← (← Document.needed? members "message".toList).text?
    let span ← Span.ofDocument (← Document.needed? members "span".toList)
    some ⟨line, ⟨rule, severity, message, span⟩⟩
  | _ => none

/-- The finding that a text denotes. -/
def read? (t : Text) : Option Finding := (Document.read? t).bind ofDocument

end Finding

end DirectiveLint
