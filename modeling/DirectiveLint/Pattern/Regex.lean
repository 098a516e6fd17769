import DirectiveLint.Pattern.CharSet

/-!
# Regular expressions

Regular expressions over characters with anchors, and their matching by sets of positions.
`reach t r` takes the positions of a text where a match of `r` may start to the positions
where it may end; a set of positions is a list of marks, one for each position from 0 to
the length of the text.  `Regex.Matches` says on its own what a match is.
-/

namespace DirectiveLint.Pattern

/-- A condition on the neighbours of a position. -/
inductive Look where
  /-- The start of the text. -/
  | start
  /-- The end of the text. -/
  | stop
  /-- The start of a line. -/
  | lineStart
  /-- The end of a line. -/
  | lineStop
  /-- The start of a line, where a carriage return ends a line too. -/
  | lineStartReturn
  /-- The end of a line, where a carriage return ends a line too. -/
  | lineStopReturn
  /-- The boundary of a word. -/
  | boundary (w : CharSet)
  /-- No boundary of a word. -/
  | inside (w : CharSet)
  /-- The start of a word. -/
  | wordStart (w : CharSet)
  /-- The end of a word. -/
  | wordStop (w : CharSet)
  /-- No word character before. -/
  | afterNonWord (w : CharSet)
  /-- No word character behind. -/
  | beforeNonWord (w : CharSet)
  deriving DecidableEq, Repr

/-- The condition holds between two neighbours; a missing one is an end of the text. -/
def Look.holds : Look → Option Char → Option Char → Bool
  | .start, before, _ => before.isNone
  | .stop, _, behind => behind.isNone
  | .lineStart, before, _ => before.all (· == '\n')
  | .lineStop, _, behind => behind.all (· == '\n')
  | .lineStartReturn, before, behind =>
    before.all (· == '\n') || (before == some '\r' && behind != some '\n')
  | .lineStopReturn, before, behind =>
    behind.all (· == '\r') || (behind == some '\n' && before != some '\r')
  | .boundary w, before, behind => before.any w.mem != behind.any w.mem
  | .inside w, before, behind => before.any w.mem == behind.any w.mem
  | .wordStart w, before, behind => !before.any w.mem && behind.any w.mem
  | .wordStop w, before, behind => before.any w.mem && !behind.any w.mem
  | .afterNonWord w, before, _ => !before.any w.mem
  | .beforeNonWord w, _, behind => !behind.any w.mem

/-- A regular expression. -/
inductive Regex where
  /-- Matches the empty text. -/
  | empty
  /-- Matches one character of a set. -/
  | set (s : CharSet)
  /-- Matches the empty text where a condition holds. -/
  | look (l : Look)
  /-- Matches what the first matches, then what the second matches. -/
  | cat (r s : Regex)
  /-- Matches what either matches. -/
  | alt (r s : Regex)
  /-- Matches what `least` up to `most` repetitions match, any number if there is no `most`. -/
  | rep (r : Regex) (least : Nat) (most : Option Nat)
  deriving DecidableEq, Repr

/-- A mark for each position of a text. -/
abbrev Marks := List Bool

/-- The characters before and behind each position of a text. -/
def neighbours (t : Text) : List (Option Char × Option Char) :=
  List.zip (none :: t.map some) (t.map some ++ [none])

namespace Marks

/-- The positions that are in either set. -/
def join (p q : Marks) : Marks := List.zipWith or p q

/-- The positions of the first set that are not in the second. -/
def without (p q : Marks) : Marks := List.zipWith (fun a b => a && !b) p q

/-- No position is in the set. -/
def isEmpty (p : Marks) : Bool := !p.any id

/-- The set after `n` steps. -/
def iterate (step : Marks → Marks) : Nat → Marks → Marks
  | 0, p => p
  | n + 1, p => if isEmpty p then p else iterate step n (step p)

/-- What up to `n` steps reach from a set, its own positions included. -/
def within (step : Marks → Marks) : Nat → Marks → Marks
  | 0, p => p
  | n + 1, p => if isEmpty p then p else join p (within step n (step p))

/-- What any number of steps reach, where `seen` has been reached and only `fresh` has not
been stepped from.  Each round but the last adds a position, so as many rounds as there are
positions suffice. -/
def closure (step : Marks → Marks) : Nat → Marks → Marks → Marks
  | 0, seen, _ => seen
  | n + 1, seen, fresh =>
    let next := without (step fresh) seen
    if isEmpty next then seen else closure step n (join seen next) next

end Marks

namespace Regex

/-- The ends of the matches that start at marked positions. -/
def reach (t : Text) : Regex → Marks → Marks
  | empty, p => p
  | set s, p => false :: List.zipWith (fun m c => m && s.mem c) p t
  | look l, p => List.zipWith (fun m n => m && l.holds n.1 n.2) p (neighbours t)
  | cat r s, p => reach t s (reach t r p)
  | alt r s, p => Marks.join (reach t r p) (reach t s p)
  | rep r least most, p =>
    let p := Marks.iterate (reach t r) least p
    match most with
    | none => Marks.closure (reach t r) (t.length + 1) p p
    | some most => Marks.within (reach t r) (most - least) p

/-- Some part of a text is matched. -/
def foundIn (r : Regex) (t : Text) : Bool :=
  (reach t r (List.replicate (t.length + 1) true)).any id

/-- `Matches t r i j`: the part of `t` from position `i` to position `j` is a match of `r`
there. -/
inductive Matches (t : Text) : Regex → Nat → Nat → Prop
  | empty {i} : i ≤ t.length → Matches t empty i i
  | set {s i c} : t[i]? = some c → s.mem c = true → Matches t (set s) i (i + 1)
  | look {l i n} : (neighbours t)[i]? = some n → l.holds n.1 n.2 = true → Matches t (look l) i i
  | cat {r s i j k} : Matches t r i j → Matches t s j k → Matches t (cat r s) i k
  | altLeft {r s i j} : Matches t r i j → Matches t (alt r s) i j
  | altRight {r s i j} : Matches t s i j → Matches t (alt r s) i j
  | repNone {r most i} : i ≤ t.length → Matches t (rep r 0 most) i i
  | repLeast {r least most i j k} :
      Matches t r i j → Matches t (rep r least (most.map (· - 1))) j k →
      Matches t (rep r (least + 1) most) i k
  | repMore {r most i j k} :
      most ≠ some 0 → Matches t r i j → Matches t (rep r 0 (most.map (· - 1))) j k →
      Matches t (rep r 0 most) i k

/-- Only the empty text can be matched. -/
def isWeightless : Regex → Bool
  | empty => true
  | set _ => false
  | look _ => true
  | cat r s => r.isWeightless && s.isWeightless
  | alt r s => r.isWeightless && s.isWeightless
  | rep r _ most => r.isWeightless || most == some 0

/-- A repetition; what matches only the empty text is repeated at most once. -/
def repeated (r : Regex) (least : Nat) (most : Option Nat) : Regex :=
  if r.isWeightless then rep r (min least 1) (some (min (most.getD 1) 1)) else rep r least most

/-- The expressions in sequence. -/
def catOf : List Regex → Regex
  | [] => empty
  | [r] => r
  | r :: rs => cat r (catOf rs)

/-- The choice between expressions, at least one. -/
def altOf : List Regex → Regex
  | [] => empty
  | [r] => r
  | r :: rs => alt r (altOf rs)

end Regex

end DirectiveLint.Pattern
