import DirectiveLint.Pattern.Regex
import DirectiveLint.Span

/-!
# Captures

Expressions with named groups, and what the groups mark where an expression is found.  Of all
ways to match, a search takes the first: one that starts furthest to the left and among these
the one that takes more characters, or a part that can be left out, at the first place where two
of them part.  `Grouped.ways` lists the ways from a place on in this order.  The smallest parts
of an expression carry their written forms, from which `Grouped.written` puts that of the whole
together; `Grouped.regex` is the expression without its groups.
-/

namespace DirectiveLint.Pattern

/-- An expression with named groups. -/
inductive Grouped where
  /-- Nothing is matched: flags are set, or nothing is written. -/
  | nothing (written : Text)
  /-- A condition. -/
  | look (written : Text) (l : Look)
  /-- One character of a set. -/
  | set (written : Text) (s : CharSet)
  /-- `least` up to `most` characters of a set, as many as possible. -/
  | run (written : Text) (s : CharSet) (least : Nat) (most : Option Nat)
  /-- One expression, then another. -/
  | cat (r s : Grouped)
  /-- An expression in parentheses that mark nothing. -/
  | hold (r : Grouped)
  /-- An expression in a group with a name. -/
  | group (name : Text) (r : Grouped)
  /-- An expression that is left out only if it has to be. -/
  | optional (r : Grouped)
  deriving DecidableEq, Repr

/-- What groups have marked, the latest first. -/
abbrev Captures := List (Text × Span)

/-- A place in a text, and what groups have marked before it. -/
structure Position where
  /-- The text before the place. -/
  passed : Text
  /-- The text behind the place. -/
  rest : Text
  /-- What groups have marked. -/
  captures : Captures
  deriving DecidableEq, Repr

namespace Position

/-- The whole text that the place is in. -/
def text (p : Position) : Text := p.passed ++ p.rest

/-- The place `n` characters further on. -/
def advance (p : Position) (n : Nat) : Position :=
  { p with passed := p.passed ++ p.rest.take n, rest := p.rest.drop n }

/-- The place with all marked that lies between another place and it. -/
def mark (p : Position) (name : Text) (start : Position) : Position :=
  { p with captures := (name, ⟨byteLength start.passed, byteLength p.passed⟩) :: p.captures }

/-- The places where a search in a text starts, one behind the other. -/
def starts (passed : Text) : Text → List Position
  | [] => [⟨passed, [], []⟩]
  | c :: rest => ⟨passed, c :: rest, []⟩ :: starts (passed ++ [c]) rest

end Position

/-- How many characters of a set can be taken from the start of a text, the greatest number
first. -/
def counts (s : CharSet) : Nat → Option Nat → Text → List Nat
  | least, most, c :: t =>
    (if (least ≠ 0 ∨ most ≠ some 0) ∧ s.mem c then
        (counts s (least - 1) (most.map (· - 1)) t).map (· + 1)
      else [])
      ++ if least = 0 then [0] else []
  | least, _, [] => if least = 0 then [0] else []

namespace Grouped

/-- The written form. -/
def written : Grouped → Text
  | nothing w => w
  | look w _ => w
  | set w _ => w
  | run w _ _ _ => w
  | cat r s => r.written ++ s.written
  | hold r => ['(', '?', ':'] ++ r.written ++ [')']
  | group name r => ['(', '?', 'P', '<'] ++ name ++ ['>'] ++ r.written ++ [')']
  | optional r => r.written ++ ['?']

/-- The expression without its groups. -/
def regex : Grouped → Regex
  | nothing _ => .empty
  | look _ l => .look l
  | set _ s => .set s
  | run _ s least most => .rep (.set s) least most
  | cat r s => .cat r.regex s.regex
  | hold r => r.regex
  | group _ r => r.regex
  | optional r => .rep r.regex 0 (some 1)

/-- The places behind the matches that start at a place, in the order of preference. -/
def ways : Grouped → Position → List Position
  | nothing _, p => [p]
  | look _ l, p => if l.holds p.passed.getLast? p.rest.head? then [p] else []
  | set _ s, p => if p.rest.head?.any s.mem then [p.advance 1] else []
  | run _ s least most, p => (counts s least most p.rest).map p.advance
  | cat r s, p => (r.ways p).flatMap s.ways
  | hold r, p => r.ways p
  | group name r, p => (r.ways p).map (·.mark name p)
  | optional r, p => r.ways p ++ [p]

/-- What the groups mark where the expression is first found in a text. -/
def captures? (r : Grouped) (t : Text) : Option Captures :=
  ((Position.starts [] t).flatMap r.ways).head?.map (·.captures)

end Grouped

end DirectiveLint.Pattern
