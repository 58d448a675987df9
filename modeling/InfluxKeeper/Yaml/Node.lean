import InfluxKeeper.Yaml.Scalar
import InfluxKeeper.Yaml.Tokens

/-!
# From tokens to nodes

A document is a tree of nodes, each with a tag that says what kind of value it is. A node can be given a
name and stand in further places under that name, even within itself; a tree cannot hold itself, so a node
within itself is unrolled a few times.

The readers take the unread tokens. A list of tokens that ends before its stream does ends with the fault
that the text has there.
-/

namespace InfluxKeeper.Yaml

/-- A node of a document. -/
inductive Node
  | scalar (tag : String) (text : String)
  | sequence (tag : String) (items : List Node)
  | mapping (tag : String) (entries : List (Node × Node))
  /-- A node within itself, by its name. -/
  | inside (name : String)
  /-- A node with its name, under the tag of the key `=` or of numbers with a point. What it is depends on
  where else it stands. -/
  | named (name : String) (n : Node)

instance : Inhabited Node := ⟨.scalar Tag.null ""⟩

namespace Node

/-- The tag of a node. -/
def tag : Node → String
  | .scalar tag _ => tag
  | .sequence tag _ => tag
  | .mapping tag _ => tag
  | .inside _ => Tag.null
  | .named _ n => n.tag

/-- A node without its name. -/
def bare : Node → Node
  | .named _ n => n.bare
  | n => n

mutual

/-- A node with another in the places where a name stands within itself. -/
def unroll (name : String) (whole : Node) : Node → Node
  | .scalar tag text => .scalar tag text
  | .sequence tag items => .sequence tag (unrollItems name whole items)
  | .mapping tag entries => .mapping tag (unrollEntries name whole entries)
  | .inside other => if other = name then whole else .inside other
  | .named other n => .named other (unroll name whole n)

/-- Nodes with another in the places where a name stands within itself. -/
def unrollItems (name : String) (whole : Node) : List Node → List Node
  | [] => []
  | item :: rest => unroll name whole item :: unrollItems name whole rest

/-- Entries with a node in the places where a name stands within itself. -/
def unrollEntries (name : String) (whole : Node) : List (Node × Node) → List (Node × Node)
  | [] => []
  | (key, item) :: rest =>
    (unroll name whole key, unroll name whole item) :: unrollEntries name whole rest

end

/-- A node that may stand within itself, three times unrolled. -/
def close (name : String) (n : Node) : Node :=
  n.unroll name (n.unroll name (n.unroll name n))

end Node

/-- The state of reading nodes: the unread tokens, and the names given so far with their nodes, none for a
node that is still being read. -/
structure Reader where
  tokens : List Token
  fault : Option Fault
  names : List (String × Option Node)

namespace Reader

/-- The next token. -/
def peek (r : Reader) : Except Fault Token :=
  match r.tokens with
  | t :: _ => .ok t
  | [] => .error (r.fault.getD .malformed)

/-- The reader after the next token. -/
def next (r : Reader) : Reader := { r with tokens := r.tokens.drop 1 }

/-- Gives a name to a node that is about to be read. No name is given twice. -/
def open? (r : Reader) (anchor : Option String) : Except Fault Reader :=
  match anchor with
  | none => .ok r
  | some name =>
    if (r.names.lookup name).isSome then malformed
    else .ok { r with names := (name, none) :: r.names }

/-- Ends the reading of a node that may have a name. -/
def finish (r : Reader) (anchor : Option String) (n : Node) : Node × Reader :=
  match anchor with
  | none => (n, r)
  | some name =>
    let n := n.close name
    -- only a node under these two tags is told by its name later
    let n := if n.tag = Tag.value ∨ n.tag = Tag.float then .named name n else n
    (n, { r with names := (name, some n) :: r.names })

end Reader

/-- What a document says of tags: their handles and what these stand for. -/
abbrev Handles := List (String × String)

/-- The handles that every document has. -/
def defaultHandles : Handles := [("!", "!"), ("!!", Tag.standard)]

/-- A tag by its handle and suffix; its handle has to be known. -/
def resolveTag (handles : Handles) : Option String → String → Except Fault String
  | none, suffix => .ok suffix
  | some handle, suffix =>
    match handles.lookup handle with
    | some start => .ok (start ++ suffix)
    | none => malformed

/-- What stands in front of a node: its name and its tag, in either order. -/
def readProperties (handles : Handles) (r : Reader) :
    Except Fault ((Option String × Option String) × Reader) := do
  match ← r.peek with
  | .anchor name =>
    let r := r.next
    match ← r.peek with
    | .tag handle suffix => return ((some name, some (← resolveTag handles handle suffix)), r.next)
    | _ => return ((some name, none), r)
  | .tag handle suffix =>
    let tag ← resolveTag handles handle suffix
    let r := r.next
    match ← r.peek with
    | .anchor name => return ((some name, some tag), r.next)
    | _ => return ((none, some tag), r)
  | _ => return ((none, none), r)

/-- The tag of a scalar: the one given, or the one that its text has if it is plain. The tag of a single
exclamation mark leaves it to the text. -/
def scalarTag (tag : Option String) (text : String) (plain : Bool) : String :=
  match tag with
  | some "!" => Tag.ofText text
  | some tag => tag
  | none => if plain then Tag.ofText text else Tag.text

/-- The tag of a collection: the one given, or the usual one. -/
def collectionTag (tag : Option String) (usual : String) : String :=
  match tag with
  | none => usual
  | some tag => if tag = "!" then usual else tag

/-- A node without text. -/
def emptyNode : Node := .scalar Tag.null ""

/-- Where a node stands: in a block, as the value of a block's key, or between brackets. -/
inductive Place
  | block
  | blockValue
  | flow
  deriving DecidableEq, Repr

mutual

/-- Reads a node. Every step takes a token or hands on to a reader that does, so a few steps for every
token suffice. -/
def readNode (handles : Handles) (fuel : Nat) (place : Place) (r : Reader) :
    Except Fault (Node × Reader) :=
  match fuel with
  | 0 => malformed
  | fuel + 1 => do
    match ← r.peek with
    | .alias name =>
      match r.names.lookup name with
      | some (some n) => return (n, r.next)
      | some none => return (.inside name, r.next)
      | none => malformed
    | _ =>
      let ((anchor, tag), r) ← readProperties handles r
      match ← r.peek with
      | .scalar text plain =>
        let r ← r.open? anchor
        return r.next.finish anchor (.scalar (scalarTag tag text plain) text)
      | .flowSequenceStart =>
        let r ← r.open? anchor
        let (items, r) ← readFlowItems handles fuel true r.next
        return r.finish anchor (.sequence (collectionTag tag Tag.sequence) items)
      | .flowMappingStart =>
        let r ← r.open? anchor
        let (entries, r) ← readFlowEntries handles fuel true r.next
        return r.finish anchor (.mapping (collectionTag tag Tag.mapping) entries)
      | t =>
        if t = .blockEntry ∧ place = .blockValue then
          let r ← r.open? anchor
          let (items, r) ← readDashes handles fuel r
          return r.finish anchor (.sequence (collectionTag tag Tag.sequence) items)
        else if t = .blockSequenceStart ∧ place ≠ .flow then
          let r ← r.open? anchor
          let (items, r) ← readBlockItems handles fuel r.next
          return r.finish anchor (.sequence (collectionTag tag Tag.sequence) items)
        else if t = .blockMappingStart ∧ place ≠ .flow then
          let r ← r.open? anchor
          let (entries, r) ← readBlockEntries handles fuel r.next
          return r.finish anchor (.mapping (collectionTag tag Tag.mapping) entries)
        else if anchor.isSome || tag.isSome then
          let r ← r.open? anchor
          return r.finish anchor (.scalar (scalarTag tag "" true) "")
        else malformed

/-- Reads a node unless one of some tokens follows; then the node is empty. -/
def readNodeUnless (handles : Handles) (fuel : Nat) (place : Place) (stops : List Token) (r : Reader) :
    Except Fault (Node × Reader) :=
  match fuel with
  | 0 => malformed
  | fuel + 1 => do
    if stops.contains (← r.peek) then return (emptyNode, r) else readNode handles fuel place r

/-- Reads the items of a block up to its end. -/
def readBlockItems (handles : Handles) (fuel : Nat) (r : Reader) :
    Except Fault (List Node × Reader) :=
  match fuel with
  | 0 => malformed
  | fuel + 1 => do
    match ← r.peek with
    | .blockEntry =>
      let (item, r) ← readNodeUnless handles fuel .block [.blockEntry, .blockEnd] r.next
      let (items, r) ← readBlockItems handles fuel r
      return (item :: items, r)
    | .blockEnd => return ([], r.next)
    | _ => malformed

/-- Reads items that are not indented, the value of a key. -/
def readDashes (handles : Handles) (fuel : Nat) (r : Reader) : Except Fault (List Node × Reader) :=
  match fuel with
  | 0 => malformed
  | fuel + 1 => do
    match ← r.peek with
    | .blockEntry =>
      let (item, r) ← readNodeUnless handles fuel .block [.blockEntry, .key, .value, .blockEnd] r.next
      let (items, r) ← readDashes handles fuel r
      return (item :: items, r)
    | _ => return ([], r)

/-- Reads the entries of a block up to its end. -/
def readBlockEntries (handles : Handles) (fuel : Nat) (r : Reader) :
    Except Fault (List (Node × Node) × Reader) :=
  match fuel with
  | 0 => malformed
  | fuel + 1 => do
    match ← r.peek with
    | .blockEnd => return ([], r.next)
    | .key =>
      let stops := [Token.key, .value, .blockEnd]
      let (key, r) ← readNodeUnless handles fuel .blockValue stops r.next
      let (value, r) ← match ← r.peek with
        | .value => readNodeUnless handles fuel .blockValue stops r.next
        | _ => pure (emptyNode, r)
      let (entries, r) ← readBlockEntries handles fuel r
      return ((key, value) :: entries, r)
    | _ => malformed

/-- Reads the items between square brackets up to the closing one. A key among them is an entry of a
mapping of its own. -/
def readFlowItems (handles : Handles) (fuel : Nat) (first : Bool) (r : Reader) :
    Except Fault (List Node × Reader) :=
  match fuel with
  | 0 => malformed
  | fuel + 1 => do
    match ← r.peek with
    | .flowSequenceEnd => return ([], r.next)
    | t =>
      if !first && t != .flowEntry then malformed
      let r := if first then r else r.next
      match ← r.peek with
      | .flowSequenceEnd => return ([], r.next)
      | .key =>
        let (key, r) ← readNodeUnless handles fuel .flow [.value, .flowEntry, .flowSequenceEnd] r.next
        let (value, r) ← match ← r.peek with
          | .value => readNodeUnless handles fuel .flow [.flowEntry, .flowSequenceEnd] r.next
          | _ => pure (emptyNode, r)
        let (items, r) ← readFlowItems handles fuel false r
        return (.mapping Tag.mapping [(key, value)] :: items, r)
      | _ =>
        let (item, r) ← readNode handles fuel .flow r
        let (items, r) ← readFlowItems handles fuel false r
        return (item :: items, r)

/-- Reads the entries between curly brackets up to the closing one. -/
def readFlowEntries (handles : Handles) (fuel : Nat) (first : Bool) (r : Reader) :
    Except Fault (List (Node × Node) × Reader) :=
  match fuel with
  | 0 => malformed
  | fuel + 1 => do
    match ← r.peek with
    | .flowMappingEnd => return ([], r.next)
    | t =>
      if !first && t != .flowEntry then malformed
      let r := if first then r else r.next
      match ← r.peek with
      | .flowMappingEnd => return ([], r.next)
      | .key =>
        let (key, r) ← readNodeUnless handles fuel .flow [.value, .flowEntry, .flowMappingEnd] r.next
        let (value, r) ← match ← r.peek with
          | .value => readNodeUnless handles fuel .flow [.flowEntry, .flowMappingEnd] r.next
          | _ => pure (emptyNode, r)
        let (entries, r) ← readFlowEntries handles fuel false r
        return ((key, value) :: entries, r)
      | _ =>
        let (key, r) ← readNode handles fuel .flow r
        let (entries, r) ← readFlowEntries handles fuel false r
        return ((key, emptyNode) :: entries, r)

end

/-! ## Documents -/

/-- Reads the directives in front of a document. There is one version at most, which has to be 1, and one
meaning of every handle. -/
def readDirectives (versions : Nat) (handles : Handles) : List Token → Except Fault (Handles × List Token)
  | .version major :: rest =>
    if versions = 0 ∧ major = 1 then readDirectives 1 handles rest else malformed
  | .tagHandle handle start :: rest =>
    if (handles.lookup handle).isSome then malformed
    else readDirectives versions ((handle, start) :: handles) rest
  | .otherDirective :: rest => readDirectives versions handles rest
  | rest => .ok (handles, rest)

/-- The fuel that suffices for reading a node from tokens. -/
def nodeFuel (r : Reader) : Nat := 4 * r.tokens.length + 8

/-- Reads the node of a document and the token after it, which has to be there. -/
def readContent (handles : Handles) (r : Reader) : Except Fault (Node × Reader) := do
  let (n, r) ← readNode handles (nodeFuel r) .block { r with names := [] }
  match ← r.peek with
  | .documentEnd => return (n, r.next)
  | _ => return (n, r)

/-- Reads what stands after the mark of a document's start, and may be nothing. -/
def readMarkedContent (handles : Handles) (r : Reader) : Except Fault (Node × Reader) := do
  match ← r.peek with
  | .documentEnd => return (emptyNode, r.next)
  | .version _ | .tagHandle .. | .otherDirective | .documentStart | .streamEnd => return (emptyNode, r)
  | _ => readContent handles r

/-- Reads the next document, if there is one. Only the first may do without a mark of its start. -/
def readDocument? (first : Bool) (r : Reader) : Except Fault (Option (Node × Reader)) := do
  let explicit (r : Reader) : Except Fault (Option (Node × Reader)) := do
    let r := { r with tokens := r.tokens.dropWhile (· == Token.documentEnd) }
    if (← r.peek) = .streamEnd then return none
    let (handles, tokens) ← readDirectives 0 [] r.tokens
    let r := { r with tokens }
    if (← r.peek) ≠ .documentStart then malformed
    return some (← readMarkedContent (handles ++ defaultHandles) r.next)
  match ← r.peek with
  | .version _ | .tagHandle .. | .otherDirective | .documentStart | .streamEnd => explicit r
  | _ => if first then return some (← readContent defaultHandles r) else explicit r

end InfluxKeeper.Yaml
