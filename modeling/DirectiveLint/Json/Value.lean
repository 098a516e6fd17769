import DirectiveLint.Text.Order

/-!
# JSON values

Values as they are looked at after reading, and as they are written out.  The members of an
object stand in the order in which they are written; those of an object that was read are in
ascending order of their keys, each key once.
-/

namespace DirectiveLint

/-- A JSON number: an integer of 64 bits, or any other number in its spelling. -/
inductive Json.Number where
  | integer (n : Int)
  | decimal (spelling : Text)
  deriving DecidableEq, Repr

/-- A JSON value. -/
inductive Json where
  | null
  | bool (b : Bool)
  | number (n : Json.Number)
  | string (t : Text)
  | array (items : List Json)
  | object (members : List (Text × Json))

namespace Json

/-- A natural number as a JSON value. -/
def ofNat (n : Nat) : Json := number (.integer n)

/-- A text that may be missing as a JSON value. -/
def ofText? : Option Text → Json
  | some t => string t
  | none => null

end Json

end DirectiveLint
