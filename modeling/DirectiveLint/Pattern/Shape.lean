import DirectiveLint.Pattern.Extent
import DirectiveLint.Pattern.Regex

/-!
# Shapes

The shape in which a regular expression is compiled.  Sequences and choices are flat,
neighbouring characters make up a literal, and a choice between characters or between sets
is one set; only groups that mark a part of the match are kept.
-/

namespace DirectiveLint.Pattern

/-- The shape of a regular expression. -/
inductive Shape where
  /-- Nothing. -/
  | empty
  /-- Some characters in a row. -/
  | literal (t : Text)
  /-- One character of a set. -/
  | set (ranges : Unicode.Ranges)
  /-- A condition. -/
  | look (l : Look)
  /-- A repetition. -/
  | rep (s : Shape) (least : Nat) (most : Option Nat)
  /-- A group that marks a part of the match. -/
  | group (s : Shape)
  /-- A sequence. -/
  | cat (ss : List Shape)
  /-- A choice. -/
  | alt (ss : List Shape)

namespace Shape

mutual

/-- Two shapes are the same.  Groups mark different parts, so no two of them are. -/
def same : Shape → Shape → Bool
  | empty, empty => true
  | literal t, literal u => t == u
  | set r, set q => r == q
  | look l, look m => l == m
  | rep s least most, rep t least' most' => least == least' && most == most' && same s t
  | cat ss, cat ts => sameAll ss ts
  | alt ss, alt ts => sameAll ss ts
  | _, _ => false

/-- The shapes of two lists are the same one by one. -/
def sameAll : List Shape → List Shape → Bool
  | [], [] => true
  | s :: ss, t :: ts => same s t && sameAll ss ts
  | _, _ => false

end

mutual

/-- Only the empty text can be matched. -/
def isWeightless : Shape → Bool
  | empty => true
  | literal t => t.isEmpty
  | set _ => false
  | look _ => true
  | rep s _ _ => s.isWeightless
  | group s => s.isWeightless
  | cat ss => areWeightless ss
  | alt ss => areWeightless ss

/-- Each of the shapes matches only the empty text. -/
def areWeightless : List Shape → Bool
  | [] => true
  | s :: ss => s.isWeightless && areWeightless ss

end

mutual

/-- A lower bound for the length of what is matched; `none` if the empty set has to be. -/
def minLength? : Shape → Option Nat
  | empty => some 0
  | literal t => some t.length
  | set ranges => if ranges.isEmpty then none else some 1
  | look _ => some 0
  | rep s least _ => s.minLength?.map (least * ·)
  | group s => s.minLength?
  | cat ss => sumLength? ss
  | alt ss => leastLength? ss

/-- The sum of the bounds of some shapes. -/
def sumLength? : List Shape → Option Nat
  | [] => some 0
  | s :: ss => do
    let m ← s.minLength?
    let n ← sumLength? ss
    some (m + n)

/-- The least of the bounds of some shapes. -/
def leastLength? : List Shape → Option Nat
  | [] => some 0
  | [s] => s.minLength?
  | s :: ss => do
    let m ← s.minLength?
    let n ← leastLength? ss
    some (min m n)

end

/-! ## Building shapes -/

/-- The shape of one character of a set. -/
def ofExtent (p : Extent) : Shape :=
  match p.ranges with
  | [(first, last)] => if first = last then literal [Char.ofNat first] else set [(first, last)]
  | ranges => set ranges

/-- The shape of a repetition; what matches only the empty text is repeated at most once. -/
def repeated (s : Shape) (least : Nat) (most : Option Nat) : Shape :=
  let (least, most) :=
    if s.isWeightless then (min least 1, some (min (most.getD 1) 1)) else (least, most)
  if most = some 0 then empty
  else if least = 1 && most = some 1 then s
  else rep s least most

/-- The parts of a sequence, or the shape itself. -/
def parts : Shape → List Shape
  | cat ss => ss
  | s => [s]

/-- The branches of a choice, or the shape itself. -/
def branches : Shape → List Shape
  | alt ss => ss
  | s => [s]

/-- A shape in front of the parts of a sequence. -/
def prepend (s : Shape) (rest : List Shape) : List Shape :=
  match s, rest with
  | empty, rest => rest
  | literal t, literal u :: rest => literal (t ++ u) :: rest
  | s, rest => s :: rest

/-- The shape of a sequence. -/
def sequence (ss : List Shape) : Shape :=
  match (ss.flatMap parts).foldr prepend [] with
  | [] => empty
  | [s] => s
  | ss => cat ss

/-- The extent of a literal of one character. -/
def char? : Shape → Option Extent
  | literal [c] => some [c.toNat, c.toNat + 1]
  | _ => none

/-- The extent of a set. -/
def set? : Shape → Option Extent
  | set ranges => some (.ofRanges ranges)
  | _ => none

/-- The parts of a sequence. -/
def cat? : Shape → Option (List Shape)
  | cat ss => some ss
  | _ => none

/-- The shape of a choice, apart from what all branches start with. -/
def choiceOfApart (ss : List Shape) : Shape :=
  match ss.flatMap branches with
  | [s] => s
  | ss =>
    match (ss.mapM char?).or (ss.mapM set?) with
    | some extents => ofExtent (.unionOf extents)
    | none => alt ss

/-- The shapes that two sequences both start with. -/
def commonPrefix : List Shape → List Shape → List Shape
  | s :: ss, t :: ts => if same s t then s :: commonPrefix ss ts else []
  | _, _ => []

/-- The shape of a choice.  What all branches start with stands before it. -/
def choice (ss : List Shape) : Shape :=
  match choiceOfApart ss with
  | alt ss =>
    match ss.mapM cat? with
    | some (first :: others) =>
      let start := others.foldl commonPrefix first
      if start.isEmpty then alt ss
      else
        sequence
          (start ++ [choiceOfApart ((first :: others).map fun p => sequence (p.drop start.length))])
    | _ => alt ss
  | s => s

end Shape

end DirectiveLint.Pattern
