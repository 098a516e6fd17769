import DirectiveLint.Pattern.CharSet

/-!
# Extents

The extent of a set of characters says where, among the code points, the set starts and
where it stops.  `CharSet.extent` works it out for an expression; the operations on sets are
all one sweep over two extents (`Extent.combine`).
-/

namespace DirectiveLint.Pattern

open Unicode

/-- The code points at which a set starts or stops, in ascending order: those before the
first are outside, those from the first to before the second inside, and so on. -/
abbrev Extent := List Nat

namespace Extent

/-- A code point is inside. -/
def contains : Extent → Nat → Bool
  | [], _ => false
  | edge :: rest, n => edge ≤ n && !contains rest n

/-- The extent of ranges that lie apart. -/
def ofRanges (ranges : Ranges) : Extent :=
  ranges.flatMap fun (first, last) => [first, last + 1]

/-- The ranges of an extent. -/
def ranges : Extent → Ranges
  | first :: stop :: rest => (first, stop - 1) :: ranges rest
  | _ => []

/-- The extent of some code points in ascending order. -/
def ofPoints : List Nat → Extent
  | [] => []
  | n :: ns =>
    match ofPoints ns with
    | next :: rest => if next = n + 1 then n :: rest else n :: (n + 1) :: next :: rest
    | [] => [n, n + 1]

/-- The points of which `op` holds, where `a` and `b` say whether the sweep over the two
extents is inside of them.  Each round passes an edge, so their number suffices as fuel. -/
def combineWithin (op : Bool → Bool → Bool) : Nat → Bool → Bool → Extent → Extent → Extent
  | 0, _, _, _, _ => []
  | fuel + 1, a, b, p, q =>
    let edge (n : Nat) (a' b' : Bool) (rest : Extent) : Extent :=
      if op a b = op a' b' then rest else n :: rest
    match p, q with
    | [], [] => []
    | x :: p, [] => edge x (!a) b (combineWithin op fuel (!a) b p [])
    | [], y :: q => edge y a (!b) (combineWithin op fuel a (!b) [] q)
    | x :: p, y :: q =>
      if x < y then edge x (!a) b (combineWithin op fuel (!a) b p (y :: q))
      else if y < x then edge y a (!b) (combineWithin op fuel a (!b) (x :: p) q)
      else edge x (!a) (!b) (combineWithin op fuel (!a) (!b) p q)

/-- The code points of whose membership in two sets `op` holds; it does not hold of points
that are in neither. -/
def combine (op : Bool → Bool → Bool) (p q : Extent) : Extent :=
  combineWithin op (p.length + q.length) false false p q

/-- The code points in either set. -/
def union : Extent → Extent → Extent := combine or

/-- The code points in some set. -/
def unionOf (ps : List Extent) : Extent := ps.foldr union []

/-- All characters; no code point of a surrogate is one. -/
def all : Extent := [0, 0xD800, 0xE000, 0x110000]

/-- The characters of some categories and of some ranges. -/
def ofCategories (cs : List Category) (others : Ranges) : Extent :=
  unionOf (ofRanges others :: cs.map (ofRanges ·.ranges))

/-- The alphabetic characters. -/
def alphabetic : Extent := ofCategories [.lu, .ll, .lt, .lm, .lo, .nl] otherAlphabetic

/-- The uppercase characters. -/
def uppercase : Extent := ofCategories [.lu] otherUppercase

/-- The lowercase characters. -/
def lowercase : Extent := ofCategories [.ll] otherLowercase

/-- The characters of words. -/
def word : Extent :=
  alphabetic.union (ofCategories [.mn, .mc, .me, .nd, .pc] [(0x200C, 0x200D)])

/-- A set with all case variants of its members. -/
def variants (p : Extent) : Extent :=
  p.union (ofPoints ((foldingClasses.filter (·.any p.contains)).flatten.mergeSort (· ≤ ·)))

/-- A set with the other forms of its ASCII letters. -/
def letterVariants (p : Extent) : Extent :=
  let among (first : Nat) : List Nat := (List.range 26).map (first + ·)
  unionOf [p, ofPoints ((among 0x61).filter fun n => p.contains (n - 32)),
    ofPoints ((among 0x41).filter fun n => p.contains (n + 32))]

end Extent

/-- The extent of the set that an expression denotes. -/
def CharSet.extent : CharSet → Extent
  | empty => []
  | range first last =>
    if first ≤ last then Extent.combine and .all [first.toNat, last.toNat + 1] else []
  | among ranges => .ofRanges ranges
  | word => .word
  | alphabetic => .alphabetic
  | uppercase => .uppercase
  | lowercase => .lowercase
  | variants s => s.extent.variants
  | letterVariants s => s.extent.letterVariants
  | union s t => s.extent.union t.extent
  | inter s t => Extent.combine and s.extent t.extent
  | diff s t => Extent.combine (fun a b => a && !b) s.extent t.extent
  | symm s t => Extent.combine xor s.extent t.extent
  | compl s => Extent.combine (fun a b => a && !b) .all s.extent

end DirectiveLint.Pattern
