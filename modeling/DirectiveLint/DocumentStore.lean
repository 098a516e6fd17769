import DirectiveLint.Linter

/-!
# The store of findings

The latest findings of each document.  Documents are told apart by the components of their
paths, and a document keeps the spelling under which it was first stored.
-/

namespace DirectiveLint

/-- Documents with their findings, each document once. -/
abbrev DocumentStore := List (Path × List Finding)

namespace DocumentStore

/-- The findings of a document. -/
def find? (s : DocumentStore) (p : Path) : Option (List Finding) :=
  match s with
  | [] => none
  | (q, findings) :: s => if q.same p then some findings else find? s p

/-- The store with the findings of a document replaced. -/
def publish (s : DocumentStore) (p : Path) (findings : List Finding) : DocumentStore :=
  match s with
  | [] => [(p, findings)]
  | (q, old) :: s =>
    if q.same p then (q, findings) :: s else (q, old) :: publish s p findings

/-- The store without the findings of a document. -/
def clear (s : DocumentStore) (p : Path) : DocumentStore :=
  List.filter (fun e => !e.1.same p) s

/-- The store after a document was checked: its findings are replaced, or dropped if the
linter does not apply to it. -/
def lint (s : DocumentStore) (l : Linter) (p : Path) (text : Text) : DocumentStore :=
  if l.appliesTo p then s.publish p (l.checkDocument text) else s.clear p

/-- The number of documents. -/
def size (s : DocumentStore) : Nat := s.length

end DocumentStore

end DirectiveLint
