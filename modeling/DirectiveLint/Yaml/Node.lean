import DirectiveLint.Yaml.Token

/-!
# YAML nodes

The documents of a YAML text as trees.  `Node.ofTokens` and its companions follow the
grammar of block and flow collections.  An alias stays a node of its own, which refers to an
anchored node by number; `Document.resolve` follows it.
-/

namespace DirectiveLint.Yaml

/-- A part of a document. -/
inductive Node where
  /-- A scalar with its tag, if it has one; `plain` if it is written without quotes and not
  as a block. -/
  | scalar (plain : Bool) (tag : Option Text) (text : Text)
  /-- Nodes in a row. -/
  | sequence (items : List Node)
  /-- Keys with their values, in the order of the text. -/
  | mapping (entries : List (Node × Node))
  /-- The node that is anchored under a number. -/
  | alias (number : Nat)

namespace Node

/-- The scalar that stands where nothing is written. -/
def absent (tag : Option Text) : Node := scalar true tag []

end Node

/-- A node with all that it can refer to. -/
structure Document where
  /-- The node that holds all others. -/
  root : Node
  /-- The anchored nodes under their numbers, in the order in which they start, latest
  first. -/
  anchored : List (Nat × Node)

/-- The node itself, or the one that it refers to.  No alias is anchored, so one step is
enough. -/
def Document.resolve (d : Document) : Node → Node
  | .alias number => (d.anchored.lookup number).getD (.alias number)
  | n => n

/-- What has been seen of a document: the handles of tags, the numbers of the names that
anchors have, and the anchored nodes, latest first. -/
structure Scope where
  /-- The addresses of handles. -/
  handles : List (Text × Text)
  /-- The numbers of the names of anchors. -/
  numbers : List (Text × Nat)
  /-- The anchored nodes under their numbers. -/
  anchored : List (Nat × Node)

namespace Scope

/-- The scope at the start of a document. -/
def start (handles : List (Text × Text)) : Scope where
  handles := handles ++ [(['!'], ['!']), (['!', '!'], "tag:yaml.org,2002:".toList)]
  numbers := []
  anchored := []

/-- The full tag of a handle and a suffix; `none` for an unknown handle. -/
def fullTag? (s : Scope) (handle suffix : Text) : Option Text :=
  if handle = [] then some suffix else (s.handles.lookup handle).map (· ++ suffix)

/-- The scope inside a node with an anchor.  Its number is the count of the names that
anchors have had before, so that a node may get the number of an earlier one when a name is
used again; the number then stands for the later node. -/
def enter (s : Scope) (anchor : Option Text) : Scope :=
  match anchor with
  | some name =>
    { s with
      numbers := (name, s.numbers.length) :: s.numbers.filter (·.1 ≠ name)
      anchored := (s.numbers.length, .absent none) :: s.anchored }
  | none => s

/-- The scope behind a node that was entered from the scope `before`. -/
def leave (s before : Scope) (anchor : Option Text) (n : Node) : Scope :=
  if anchor.isSome then
    { s with
      anchored := s.anchored.modify (s.anchored.length - before.anchored.length - 1) fun e =>
        (e.1, n) }
  else s

end Scope

/-- The anchor and the tag at the start of some tokens, in either order. -/
def takeProperties (s : Scope) (tokens : List Token) :
    Option (Option Text × Option Text × List Token) :=
  match tokens with
  | .anchor name :: .tag handle suffix :: rest | .tag handle suffix :: .anchor name :: rest =>
    (s.fullTag? handle suffix).map fun tag => (some name, some tag, rest)
  | .anchor name :: rest => some (some name, none, rest)
  | .tag handle suffix :: rest => (s.fullTag? handle suffix).map fun tag => (none, some tag, rest)
  | rest => some (none, none, rest)

/-- Where the value of a key or a block entry may be missing. -/
def endsEntry : List Token → Bool
  | .key :: _ | .value :: _ | .blockEnd :: _ | [] => true
  | _ => false

namespace Node

mutual

/-- The node that some tokens start with.  `block` allows block collections, and `indentless`
block entries without an indentation of their own. -/
def ofTokens (block indentless : Bool) :
    Nat → Scope → List Token → Option (Node × Scope × List Token)
  | 0, _, _ => none
  | _ + 1, s, .alias name :: rest => (s.numbers.lookup name).map (Node.alias ·, s, rest)
  | fuel + 1, s, tokens => do
    let (anchor, tag, tokens) ← takeProperties s tokens
    let inner := s.enter anchor
    let (n, s', rest) ←
      match tokens with
      | .blockEntry :: _ =>
        if indentless then
          (indentlessEntries fuel inner tokens).map fun (ns, r) => (sequence ns, r)
        else if anchor.isSome || tag.isSome then some (absent tag, inner, tokens)
        else none
      | .scalar plain t :: rest => some (scalar plain tag t, inner, rest)
      | .flowSequenceStart :: rest =>
        (flowItems true fuel inner rest).map fun (ns, r) => (sequence ns, r)
      | .flowMappingStart :: rest =>
        (flowEntries true fuel inner rest).map fun (es, r) => (mapping es, r)
      | .blockSequenceStart :: rest =>
        if block then (blockItems fuel inner rest).map fun (ns, r) => (sequence ns, r)
        else if anchor.isSome || tag.isSome then some (absent tag, inner, tokens)
        else none
      | .blockMappingStart :: rest =>
        if block then (blockEntries fuel inner rest).map fun (es, r) => (mapping es, r)
        else if anchor.isSome || tag.isSome then some (absent tag, inner, tokens)
        else none
      | _ => if anchor.isSome || tag.isSome then some (absent tag, inner, tokens) else none
    some (n, s'.leave s anchor n, rest)

/-- The node of a block entry or a block value, or nothing. -/
def blockNode (indentless : Bool) : Nat → Scope → List Token → Option (Node × Scope × List Token)
  | 0, _, _ => none
  | fuel + 1, s, tokens =>
    if endsEntry tokens then some (absent none, s, tokens)
    else
      match tokens, indentless with
      | .blockEntry :: _, false => some (absent none, s, tokens)
      | _, _ => ofTokens true indentless fuel s tokens

/-- The items of a block sequence up to its end. -/
def blockItems : Nat → Scope → List Token → Option (List Node × Scope × List Token)
  | 0, _, _ => none
  | fuel + 1, s, .blockEntry :: rest => do
    let (n, s, rest) ←
      match rest with
      | .key :: _ | .value :: _ => ofTokens true false fuel s rest
      | _ => blockNode false fuel s rest
    let (ns, s, rest) ← blockItems fuel s rest
    some (n :: ns, s, rest)
  | _ + 1, s, .blockEnd :: rest => some ([], s, rest)
  | _ + 1, _, _ => none

/-- The items of a block sequence that has no indentation of its own. -/
def indentlessEntries : Nat → Scope → List Token → Option (List Node × Scope × List Token)
  | 0, _, _ => none
  | fuel + 1, s, .blockEntry :: rest => do
    let (n, s, rest) ← blockNode false fuel s rest
    let (ns, s, rest) ← indentlessEntries fuel s rest
    some (n :: ns, s, rest)
  | _ + 1, s, rest => some ([], s, rest)

/-- The entries of a block mapping up to its end. -/
def blockEntries : Nat → Scope → List Token → Option (List (Node × Node) × Scope × List Token)
  | 0, _, _ => none
  | fuel + 1, s, .key :: rest => do
    let (k, s, rest) ← blockNode true fuel s rest
    let (v, s, rest) ←
      match rest with
      | .value :: rest => blockNode true fuel s rest
      | rest => some (absent none, s, rest)
    let (es, s, rest) ← blockEntries fuel s rest
    some ((k, v) :: es, s, rest)
  | _ + 1, s, .blockEnd :: rest => some ([], s, rest)
  | _ + 1, _, _ => none

/-- The node of a flow entry; `ends` tells before which tokens there is nothing. -/
def flowNode (ends : Token → Bool) : Nat → Scope → List Token → Option (Node × Scope × List Token)
  | 0, _, _ => none
  | fuel + 1, s, tokens =>
    if tokens.head?.all ends then some (absent none, s, tokens)
    else ofTokens false false fuel s tokens

/-- The items of a flow sequence up to its closing bracket.  A key among them makes a mapping
of one entry; if nothing is written for the key, the token that shows this is dropped. -/
def flowItems (first : Bool) : Nat → Scope → List Token → Option (List Node × Scope × List Token)
  | 0, _, _ => none
  | _ + 1, s, .flowSequenceEnd :: rest => some ([], s, rest)
  | fuel + 1, s, tokens => do
    let tokens ←
      match first, tokens with
      | false, .flowEntry :: rest => some rest
      | true, tokens => some tokens
      | false, _ => none
    match tokens with
    | .flowSequenceEnd :: rest => some ([], s, rest)
    | .key :: rest =>
      let (k, s, rest) ←
        match rest with
        | .value :: rest | .flowEntry :: rest | .flowSequenceEnd :: rest =>
          some (absent none, s, rest)
        | rest => ofTokens false false fuel s rest
      let (v, s, rest) ←
        match rest with
        | .value :: rest =>
          flowNode (fun t => t == .flowEntry || t == .flowSequenceEnd) fuel s rest
        | rest => some (absent none, s, rest)
      let (ns, s, rest) ← flowItems false fuel s rest
      some (mapping [(k, v)] :: ns, s, rest)
    | tokens =>
      let (n, s, rest) ← ofTokens false false fuel s tokens
      let (ns, s, rest) ← flowItems false fuel s rest
      some (n :: ns, s, rest)

/-- The entries of a flow mapping up to its closing brace. -/
def flowEntries (first : Bool) :
    Nat → Scope → List Token → Option (List (Node × Node) × Scope × List Token)
  | 0, _, _ => none
  | _ + 1, s, .flowMappingEnd :: rest => some ([], s, rest)
  | fuel + 1, s, tokens => do
    let tokens ←
      match first, tokens with
      | false, .flowEntry :: rest => some rest
      | true, tokens => some tokens
      | false, _ => none
    match tokens with
    | .flowMappingEnd :: rest => some ([], s, rest)
    | .key :: rest =>
      let (k, s, rest) ←
        flowNode (fun t => t == .value || t == .flowEntry || t == .flowMappingEnd) fuel s rest
      let (v, s, rest) ←
        match rest with
        | .value :: rest =>
          flowNode (fun t => t == .flowEntry || t == .flowMappingEnd) fuel s rest
        | rest => some (absent none, s, rest)
      let (es, s, rest) ← flowEntries false fuel s rest
      some ((k, v) :: es, s, rest)
    | tokens =>
      let (k, s, rest) ← ofTokens false false fuel s tokens
      let (es, s, rest) ← flowEntries false fuel s rest
      some ((k, absent none) :: es, s, rest)

end

end Node

/-! ## Documents -/

/-- The handles that the directives at the start of some tokens set, and the tokens behind
them.  A version other than 1.1 and 1.2, and a directive that is repeated, are refused. -/
def takeDirectives (versioned : Bool) (handles : List (Text × Text)) :
    List Token → Option (List (Text × Text) × List Token)
  | .version major minor :: rest =>
    if versioned || major ≠ 1 || (minor ≠ 1 && minor ≠ 2) then none
    else takeDirectives true handles rest
  | .tagHandle handle address :: rest =>
    if handles.any (·.1 = handle) then none
    else takeDirectives versioned (handles ++ [(handle, address)]) rest
  | rest => some (handles, rest)

/-- The tokens start a new document or are at the end of the text. -/
def atDocumentBoundary : List Token → Bool
  | [] | .version _ _ :: _ | .tagHandle _ _ :: _ | .documentStart :: _ | .documentEnd :: _ => true
  | _ => false

/-- The tokens behind the markers of the ends of documents. -/
def dropDocumentEnds (tokens : List Token) : List Token := tokens.dropWhile (· == .documentEnd)

/-- The document whose node some tokens start with. -/
def documentOf (s : Scope) (tokens : List Token) : Option (Document × List Token) :=
  (Node.ofTokens true false (3 * tokens.length + 3) s tokens).map
    fun (n, s, rest) => (⟨n, s.anchored⟩, rest)

/-- The documents that some tokens make up, behind a first one. -/
def furtherDocuments : Nat → List Token → Option (List Document)
  | 0, _ => none
  | fuel + 1, tokens =>
    match dropDocumentEnds tokens with
    | [] => some []
    | tokens => do
      let (handles, rest) ← takeDirectives false [] tokens
      match rest with
      | .documentStart :: rest =>
        let (d, rest) ←
          if atDocumentBoundary rest then some (⟨.absent none, []⟩, rest)
          else documentOf (.start handles) rest
        let ds ← furtherDocuments fuel rest
        some (d :: ds)
      | _ => none

/-- The documents of a text.  The first one needs no marker. -/
def documents? (t : Text) : Option (List Document) := do
  let tokens ← tokens? t
  let implicit :=
    match tokens with
    | .documentEnd :: _ => true
    | tokens => !atDocumentBoundary tokens
  if implicit then
    let (d, rest) ← documentOf (.start []) tokens
    let ds ← furtherDocuments (tokens.length + 1) rest
    some (d :: ds)
  else furtherDocuments (tokens.length + 1) tokens

end DirectiveLint.Yaml
