import DirectiveLint.Pattern.ByteSequence
import DirectiveLint.Pattern.Shape
import Std.Data.HashMap

/-!
# Automata

How large the automata for a regular expression are: one that reads texts forwards and
marks groups, and one that reads them backwards.  Both work on bytes.  A set of characters
shares states where it can: going forwards those with the same ways out, going backwards
those with the same way in.  The states that are remembered for that purpose stand in
tables of a fixed number of slots, so sharing fails where two need the same slot.
`Shape.fits` says that neither automaton is too large.
-/

namespace DirectiveLint.Pattern

/-- The size of an automaton under construction. -/
structure Size where
  /-- The number of states; the next state has this number. -/
  states : Nat
  /-- The bytes of the tables of all states. -/
  tables : Nat

namespace Size

/-- The greatest size of an automaton, in bytes. -/
def limit : Nat := 10 * 1024 * 1024

/-- The size, if it is within the limit. -/
def checked? (z : Size) : Option Size :=
  if 32 * z.states + z.tables ≤ limit then some z else none

/-- The size with further states and bytes of tables. -/
def add? (z : Size) (states tables : Nat) : Option Size :=
  checked? ⟨z.states + states, z.tables + tables⟩

end Size

/-- A part of an automaton that has been constructed last. -/
structure Fragment where
  /-- The size of the automaton up to the end of the part. -/
  size : Size
  /-- The state at the end of the part is a fork, which keeps a table of its ways out. -/
  endsInFork : Bool

/-- The size with the end of a part connected to another state, and `ways` further ways out
of forks. -/
def Fragment.connect? (f : Fragment) (ways : Nat) : Option Size :=
  f.size.add? 0 (4 * (ways + f.endsInFork.toNat))

/-! ## Sets of characters -/

/-- The slot of a table that some numbers lead to. -/
def slotOf (slots : UInt64) (ns : List Nat) : UInt64 :=
  ns.foldl (fun h n => (h ^^^ n.toUInt64) * 1099511628211) 14695981039346656037 % slots

/-- A way out of a state: the bytes of it, and the state that it leads to. -/
abbrev Way := ByteRange × Nat

/-- A state to which ways are still added: the finished ways, latest first, and the bytes of
the one that does not lead anywhere yet. -/
structure OpenState where
  ways : List Way
  last : Option ByteRange

/-- The state with its last way leading to a state. -/
def OpenState.lead (o : OpenState) (next : Nat) : OpenState :=
  match o.last with
  | some bytes => ⟨(bytes, next) :: o.ways, none⟩
  | none => o

/-- The construction of a set going forwards: the states that are remembered, and the open
states along the sequence that was added last, the deepest first. -/
structure ForwardSet where
  size : Size
  known : Std.HashMap UInt64 (List Way × Nat)
  path : List OpenState

namespace ForwardSet

/-- A state with given ways out, one that is remembered if possible. -/
def close? (f : ForwardSet) (ways : List Way) : Option (ForwardSet × Nat) :=
  let slot := slotOf 10000 (ways.flatMap fun (bytes, next) => [bytes.1, bytes.2, next])
  let fresh : Option (ForwardSet × Nat) :=
    (f.size.add? 1 (8 * ways.length)).map fun size =>
      (⟨size, f.known.insert slot (ways, f.size.states), f.path⟩, f.size.states)
  match f.known[slot]? with
  | some (same, state) => if same = ways then some (f, state) else fresh
  | none => fresh

/-- Closes the deepest states, `count` in number, the first of which leads to `next`. -/
def closeDeepest? (next : Nat) : Nat → ForwardSet → Option ForwardSet
  | 0, f =>
    match f.path with
    | o :: path => some { f with path := o.lead next :: path }
    | [] => some f
  | count + 1, f =>
    match f.path with
    | o :: path => do
      let (f, state) ← close? { f with path } (o.lead next).ways.reverse
      closeDeepest? state count f
    | [] => some f

/-- The number of ranges that a sequence has in common with the open states. -/
def sharedLength (path : List OpenState) (bytes : List ByteRange) : Nat :=
  ((path.reverse.zip bytes).takeWhile fun (o, b) => o.last = some b).length

/-- Adds a sequence; `stop` is the state behind the set. -/
def addSequence? (stop : Nat) (f : ForwardSet) (bytes : List ByteRange) : Option ForwardSet := do
  let shared := sharedLength f.path bytes
  let f ← f.closeDeepest? stop (f.path.length - 1 - shared)
  match bytes.drop shared, f.path with
  | b :: rest, o :: path =>
    some { f with path := (rest.map fun b => ⟨[], some b⟩).reverse ++ { o with last := b } :: path }
  | _, _ => some f

/-- The automaton with a set added. -/
def build? (z : Size) (ranges : Unicode.Ranges) : Option Size := do
  let stop := z.states
  let size ← z.add? 1 0
  let f ← (byteSequences ranges).foldlM (addSequence? stop) ⟨size, ∅, [⟨[], none⟩]⟩
  let f ← f.closeDeepest? stop (f.path.length - 1)
  let (f, _) ← f.close? (f.path.flatMap (·.ways.reverse))
  some f.size

end ForwardSet

/-- The construction of a set going backwards: the states that are remembered, and the state
from which the current sequence goes on. -/
structure BackwardSet where
  size : Size
  known : Std.HashMap UInt64 ((Nat × ByteRange) × Nat)
  state : Nat

namespace BackwardSet

/-- Goes on with a range of bytes, over a state that is remembered if possible. -/
def addRange? (b : BackwardSet) (bytes : ByteRange) : Option BackwardSet :=
  let key := (b.state, bytes)
  let slot := slotOf 1000 [b.state, bytes.1, bytes.2]
  let fresh : Option BackwardSet :=
    (b.size.add? 1 0).map fun size =>
      ⟨size, b.known.insert slot (key, b.size.states), b.size.states⟩
  match b.known[slot]? with
  | some (same, state) => if same = key then some { b with state } else fresh
  | none => fresh

/-- Adds a sequence; `start` is the state behind the set. -/
def addSequence? (start : Nat) (b : BackwardSet) (bytes : List ByteRange) :
    Option BackwardSet := do
  let b ← bytes.foldlM addRange? { b with state := start }
  let size ← b.size.add? 0 4
  some { b with size }

/-- The automaton with a set added. -/
def build? (z : Size) (ranges : Unicode.Ranges) : Option Size := do
  let start := z.states + 1
  let size ← z.add? 2 0
  let b ← (byteSequences ranges).foldlM (addSequence? start) ⟨size, ∅, start⟩
  some b.size

end BackwardSet

/-- The automaton with a set added; that of ASCII characters takes one table. -/
def addSet? (backwards : Bool) (ranges : Unicode.Ranges) (z : Size) : Option Fragment :=
  if ranges.all (·.2 < 0x80) then (z.add? 2 (8 * ranges.length)).map (⟨·, false⟩)
  else
    let size := if backwards then BackwardSet.build? z ranges else ForwardSet.build? z ranges
    size.map (⟨·, false⟩)

/-! ## Choices between literals -/

/-- The remainders of some literals in a common state, parted where a literal ends, the last
part first. -/
def endParts (rests : List (List Nat)) : List (List (List Nat)) :=
  rests.foldl
    (fun parts rest =>
      match rest, parts with
      | [], parts => if parts.all (·.isEmpty) && 1 < parts.length then parts else [] :: parts
      | rest, part :: parts => (part ++ [rest]) :: parts
      | rest, [] => [[rest]])
    [[]]

/-- The states and the bytes of tables that the remainders of some literals take; the
literals end after at most `length` bytes. -/
def sizeOfRests : Nat → List (List Nat) → Nat × Nat
  | 0, _ => (0, 0)
  | length + 1, rests =>
    let parts := endParts rests
    let full := parts.filter (!·.isEmpty)
    if full.isEmpty then (0, 0)
    else
      let ways := full.length + (parts.length - 1)
      let fork : Nat × Nat := if ways = 1 then (0, 0) else (1, 4 * ways)
      let sizes := full.flatMap fun part =>
        let heads := (part.filterMap (·.head?)).eraseDups
        (1, if heads.length = 1 then 0 else 8 * heads.length)
          :: heads.map fun byte =>
            sizeOfRests length ((part.filter (·.head? = some byte)).map (·.drop 1))
      (fork :: sizes).foldl (fun a b => (a.1 + b.1, a.2 + b.2)) (0, 0)

/-- The bytes of a literal in the order in which they are read. -/
def literalBytes (backwards : Bool) (t : Text) : List Nat :=
  let bytes := t.flatMap fun c => utf8Bytes c.toNat
  if backwards then bytes.reverse else bytes

/-- The automaton with a choice between literals added. -/
def addLiterals? (backwards : Bool) (ts : List Text) (z : Size) : Option Fragment :=
  let literals := ts.map (literalBytes backwards)
  let (states, tables) := sizeOfRests ((literals.map (·.length)).foldl max 0 + 1) literals
  (z.add? (states + 1) tables).map (⟨·, false⟩)

/-! ## Repetitions -/

/-- Some copies in a row. -/
def addCopies? (build : Size → Option Fragment) : Nat → Size → Option Fragment
  | 0, z => (z.add? 1 0).map (⟨·, false⟩)
  | 1, z => build z
  | n + 2, z => do
    let f ← build z
    let z ← f.connect? 0
    addCopies? build (n + 1) z

/-- Some copies in a row, each of which may be the last. -/
def addOptional? (build : Size → Option Fragment) : Nat → Fragment → Option Fragment
  | 0, f => some f
  | n + 1, f => do
    let z ← f.connect? 0
    let z ← z.add? 1 0
    let g ← build z
    let z ← g.size.add? 0 8
    addOptional? build n { g with size := z }

/-- The automaton with any number of copies added, none included. -/
def addMany? (build : Size → Option Fragment) (isLong : Bool) (z : Size) : Option Fragment := do
  if isLong then
    let z ← z.add? 1 0
    let f ← build z
    let z ← f.connect? 1
    some ⟨z, true⟩
  else
    let f ← build z
    let z ← f.connect? 4
    let z ← z.add? 3 0
    some ⟨z, false⟩

/-- The automaton with a repetition added; `isLong` says that what is repeated has at least
one character. -/
def addRepetition? (build : Size → Option Fragment) (isLong : Bool) (least : Nat)
    (most : Option Nat) (z : Size) : Option Fragment :=
  match least, most with
  | 0, none => addMany? build isLong z
  | least, none => do
    let f ← addCopies? build least z
    let z ← f.connect? 1
    let z ← z.add? 1 0
    some ⟨z, true⟩
  | 0, some 1 => do
    let z ← z.add? 1 0
    let f ← build z
    let z ← f.connect? 2
    let z ← z.add? 1 0
    some ⟨z, false⟩
  | least, some most =>
    if least = most then addCopies? build least z
    else do
      let f ← addCopies? build least z
      let z ← f.size.add? 1 0
      let f ← addOptional? build (most - least) ⟨z, f.endsInFork⟩
      let z ← f.connect? 0
      some ⟨z, false⟩

/-! ## Expressions -/

namespace Shape

/-- The characters of a literal. -/
def literal? : Shape → Option Text
  | literal t => some t
  | _ => none

mutual

/-- The automaton with a shape added. -/
def build? (backwards : Bool) : Shape → Size → Option Fragment
  | empty, z => (z.add? 1 0).map (⟨·, false⟩)
  | literal t, z => (z.add? (literalBytes backwards t).length 0).map (⟨·, false⟩)
  | set ranges, z => addSet? backwards ranges z
  | look _, z => (z.add? 1 0).map (⟨·, false⟩)
  | rep s least most, z =>
    addRepetition? (build? backwards s) (s.minLength?.any (0 < ·)) least most z
  | group s, z =>
    if backwards then build? backwards s z
    else do
      let z ← z.add? 1 0
      let f ← build? backwards s z
      let z ← f.connect? 0
      let z ← z.add? 1 0
      some ⟨z, false⟩
  | cat ss, z => buildAll? backwards ss z
  | alt ss, z =>
    match ss.mapM literal? with
    | some ts => addLiterals? backwards ts z
    | none => (buildBranches? backwards 0 ss z).map (⟨·, false⟩)

/-- The automaton with a sequence added, from its end if it reads backwards. -/
def buildAll? (backwards : Bool) : List Shape → Size → Option Fragment
  | [], z => (z.add? 1 0).map (⟨·, false⟩)
  | [s], z => build? backwards s z
  | s :: ss, z =>
    if backwards then do
      let f ← buildAll? backwards ss z
      let z ← f.connect? 0
      build? backwards s z
    else do
      let f ← build? backwards s z
      let z ← f.connect? 0
      buildAll? backwards ss z

/-- The automaton with branches added, `count` of which are there already.  The states that
fork to them and join them come after the first two. -/
def buildBranches? (backwards : Bool) : Nat → List Shape → Size → Option Size
  | _, [], z => some z
  | count, s :: ss, z => do
    let f ← build? backwards s z
    let z ← f.connect? 1
    let z ← z.add? (if count = 1 then 2 else 0) 0
    buildBranches? backwards (count + 1) ss z

end

/-- The automaton for a whole expression: a state before it, the state that accepts, and
going forwards the marks of the whole match. -/
def whole? (backwards : Bool) (s : Shape) : Option Size := do
  let z ← Size.add? ⟨0, 0⟩ 1 0
  let f ← build? backwards (group s) z
  let z ← f.connect? 0
  z.add? 1 0

/-- Neither automaton is too large. -/
def fits (s : Shape) : Bool := (s.whole? false).isSome && (s.whole? true).isSome

end Shape

end DirectiveLint.Pattern
