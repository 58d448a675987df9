import InfluxKeeper.Text.Blank
import InfluxKeeper.Yaml.Node

/-!
# From nodes to values

The value of a node follows from its tag. Entries under the key `<<` are taken over from other mappings;
those written out come later and win. Keys have to be scalars.

Where several parts of a document are at fault, the outermost is reported, and of several at one depth the
first. So faults carry the depth of the collection that they were found in.
-/

namespace InfluxKeeper.Yaml

/-- The outcome of reading a part of a document: its value, or a fault with its depth. -/
inductive Built (α : Type)
  | ok (a : α)
  | fault (depth : Nat) (f : Fault)

namespace Built

/-- A value of what was built. -/
def map {α β : Type} (f : α → β) : Built α → Built β
  | ok a => ok (f a)
  | fault depth f => fault depth f

/-- Two parts together. Of two faults the outer one is reported, and the first of two at one depth. -/
def both {α β γ : Type} (f : α → β → γ) : Built α → Built β → Built γ
  | ok a, ok b => ok (f a b)
  | ok _, fault depth e => fault depth e
  | fault depth e, ok _ => fault depth e
  | fault depth e, fault depth' e' => if depth' < depth then fault depth' e' else fault depth e

/-- The outcome of reading a scalar at a depth. -/
def ofScalar {α : Type} (depth : Nat) : Except ScalarFault α → Built α
  | .ok a => ok a
  | .error f => fault depth (.scalar f)

/-- A part that is malformed at a depth. -/
def malformed {α : Type} (depth : Nat) : Built α := fault depth .malformed

/-- The value, or the fault without its depth. -/
def toExcept {α : Type} : Built α → Except Fault α
  | ok a => .ok a
  | fault _ f => .error f

end Built

/-- The scalar that a text is under a tag, if it is a tag of scalars. -/
def scalarOf? (depth : Nat) (tag text : String) : Option (Built Scalar) :=
  if tag = Tag.null then some (.ok .null)
  else if tag = Tag.boolean then some (.ofScalar depth ((readBoolean text).map .bool))
  else if tag = Tag.integer then some (.ofScalar depth ((readInteger text).map .int))
  else if tag = Tag.float then some (.ofScalar depth ((readFloat text).map .float))
  else if tag = Tag.time then some (.ofScalar depth (readTime text))
  else if tag = Tag.text then some (.ok (.text text))
  else if tag = Tag.binary then
    some (match readBinary? text with
      | some octets => .ok (.bytes octets)
      | none => .malformed depth)
  else none

/-! ## Positions

The parts of a collection are read after all collections that are less deep, and after those of its depth
that stand before it. -/

/-- Where the parts of a collection stand: the number of the collection in the one around it, after the
position of that one. -/
abbrev Position := List Nat

/-- Whether the parts at a position are read no later than those at another. -/
def Position.notAfter (p q : Position) : Bool :=
  p.length < q.length || (p.length == q.length && !q.lex p Nat.blt)

/-! ## Keys under the tag of `=` -/

/-- A node as a key: under the tag of the key `=` it counts as a text. -/
def Node.asKey : Node → Node
  | .scalar tag text => .scalar (if tag = Tag.value then Tag.text else tag) text
  | .sequence tag items => .sequence (if tag = Tag.value then Tag.text else tag) items
  | .mapping tag entries => .mapping (if tag = Tag.value then Tag.text else tag) entries
  | .inside name => .inside name
  | .named name n => .named name n.asKey

/-- The names of nodes that are keys of mappings, with the positions of these. From there on a node under the
tag of the key `=` counts as a text wherever its name stands. -/
abbrev KeyNames := List (String × Position)

/-- A node as it counts at a position. -/
def Node.asSeen (names : KeyNames) (p : Position) (n : Node) : Node :=
  match n with
  | .named name _ => if names.any fun k => k.1 == name && k.2.notAfter p then n.asKey else n
  | n => n

mutual

/-- The text of a node that a scalar is wanted of at a position: its own, or that of the value under the key
`=`. -/
def Node.scalarText? (names : KeyNames) (p : Position) : Node → Option String
  | .scalar _ text => some text
  | .mapping _ entries => valueText? names p entries
  | .named _ n => n.scalarText? names p
  | _ => none

/-- The text of the value under the key `=`. -/
def valueText? (names : KeyNames) (p : Position) : List (Node × Node) → Option String
  | [] => none
  | (key, item) :: rest =>
    if (key.asSeen names p).tag = Tag.value then item.scalarText? names p else valueText? names p rest

end

/-- The entries of a mapping with those taken over in front, or none if something else than mappings is to
be taken over. A mapping that takes over itself gains nothing. The fuel bounds how far entries are taken
over from mappings that take over in turn. -/
def flatten (fuel : Nat) (entries : List (Node × Node)) : Option (List (Node × Node)) :=
  match fuel with
  | 0 => none
  | fuel + 1 =>
    let isMerge (e : Node × Node) : Bool := e.1.tag == Tag.merge
    let takenOver := (entries.filter isMerge).mapM fun e =>
      match e.2.bare with
      | .mapping _ more => flatten fuel more
      | .sequence _ items =>
        -- of several mappings the first wins, so it comes last
        (items.reverse.mapM fun (item : Node) =>
          match item.bare with
          | .mapping _ more => flatten fuel more
          | .inside _ => some []
          | _ => none).map List.flatten
      | .inside _ => some []
      | _ => none
    takenOver.map fun taken => taken.flatten ++ entries.filter fun e => !isMerge e

/-- The names of the keys within a node that is a part of the collection at a position, its number among
these parts given. The fuel bounds the depth of the node. -/
def keyNames (fuel : Nat) (p : Position) (number : Nat) (n : Node) : KeyNames :=
  match fuel with
  | 0 => []
  | fuel + 1 =>
    let here := p ++ [number]
    let within (parts : List Node) : KeyNames :=
      parts.zipIdx.flatMap fun (part, number) => keyNames fuel here number part
    match n with
    | .named _ n => keyNames fuel p number n
    | .sequence tag items =>
      if tag = Tag.sequence then within items
      else
        within (items.flatMap fun item =>
          match item.bare with
          | .mapping _ [(key, value)] => [key, value]
          | _ => [])
    | .mapping tag entries =>
      match if tag = Tag.mapping ∨ tag = Tag.set then flatten fuel entries else none with
      | some entries =>
        entries.filterMap (fun e =>
          match e.1 with
          | .named name _ => some (name, here)
          | _ => none) ++ within (entries.map (·.2))
      | none => []
    | _ => []

/-! ## Values -/

/-- What tells a key from all others that do not share it: NaN is one key with another NaN only if both are
written as the word for it, or given by one name. -/
def ownKey? (names : KeyNames) (p : Position) (number : Nat) (key : Node) (value : Scalar) : Option String :=
  if value = .float .nan then
    match key with
    | .named name _ => if (key.scalarText? names p).any isNaNWord then none else some name
    | _ => if (key.scalarText? names p).any isNaNWord then none else some (toString number)
  else none

/-- Entries with a value under a key, which may have something that tells it from others. -/
def insertKey (own : Option String) (key : Scalar) (value : Value) :
    List (Option String × Scalar × Value) → List (Option String × Scalar × Value)
  | [] => [(own, key, value)]
  | e :: rest =>
    if e.1 = own ∧ (own.isSome ∨ e.2.1.isOne key) then (e.1, e.2.1, value) :: rest
    else e :: insertKey own key value rest

mutual

/-- The value of a node that is a part of the collection at a position, its number among these parts given.
Every step goes into the node, and the mappings taken over are parts of it, so its size bounds the steps. -/
def valueOf (names : KeyNames) (fuel : Nat) (p : Position) (number : Nat) (n : Node) : Built Value :=
  match fuel with
  | 0 => .malformed p.length
  | fuel + 1 =>
    let here := p ++ [number]
    match n.asSeen names p with
    | .inside _ => .ok .null
    | .named _ n => valueOf names fuel p number n
    | .scalar tag text =>
      match scalarOf? p.length tag text with
      | some b => b.map .scalar
      | none =>
        -- a scalar under a tag of collections is at fault inside
        if [Tag.sequence, Tag.mapping, Tag.omap, Tag.pairs, Tag.set].contains tag then
          .malformed here.length
        else .malformed p.length
    | .sequence tag items =>
      if tag = Tag.null then .malformed p.length
      else if tag = Tag.sequence then (valuesOf names fuel here 0 items).map .list
      else if tag = Tag.omap ∨ tag = Tag.pairs then (pairsOf names fuel here 0 items).map .list
      else if [Tag.mapping, Tag.set].contains tag then .malformed here.length
      else .malformed p.length
    | .mapping tag entries =>
      if tag = Tag.mapping ∨ tag = Tag.set then
        match flatten fuel entries with
        | some entries =>
          (entriesOf names fuel here 0 [] (entries.map fun e => (e.1.asKey, e.2))).map fun e =>
            if tag = Tag.mapping then .map e else .set (e.map (·.1))
        | none => .malformed here.length
      else if [Tag.sequence, Tag.omap, Tag.pairs].contains tag then .malformed here.length
      else
        match valueText? names p entries with
        | some text =>
          if tag = Tag.time then .fault p.length (.scalar .timeMapping)
          else
            match scalarOf? p.length tag text with
            | some b => b.map .scalar
            | none => .malformed p.length
        | none => .malformed p.length

/-- The values of the parts of a collection from a number on. -/
def valuesOf (names : KeyNames) (fuel : Nat) (p : Position) (number : Nat) (items : List Node) :
    Built (List Value) :=
  match fuel, items with
  | 0, _ => .malformed p.length
  | _ + 1, [] => .ok []
  | fuel + 1, item :: rest =>
    .both List.cons (valueOf names fuel p number item) (valuesOf names fuel p (number + 1) rest)

/-- The pairs of nodes that are mappings with one entry each, with their parts from a number on. -/
def pairsOf (names : KeyNames) (fuel : Nat) (p : Position) (number : Nat) (items : List Node) :
    Built (List Value) :=
  match fuel, items with
  | 0, _ => .malformed p.length
  | _ + 1, [] => .ok []
  | fuel + 1, n :: rest =>
    match n.bare with
    | .mapping _ [(key, item)] =>
      .both (fun pair rest => .tuple [pair.1, pair.2] :: rest)
        (.both Prod.mk (valueOf names fuel p number key) (valueOf names fuel p (number + 1) item))
        (pairsOf names fuel p (number + 2) rest)
    | _ => .malformed p.length

/-- The entries of a mapping from a number on, after those read before. A later entry replaces an earlier one
of its key. -/
def entriesOf (names : KeyNames) (fuel : Nat) (p : Position) (number : Nat)
    (before : List (Option String × Scalar × Value)) (entries : List (Node × Node)) : Built Entries :=
  match fuel, entries with
  | 0, _ => .malformed p.length
  | _ + 1, [] => .ok (before.map (·.2))
  | fuel + 1, (key, item) :: rest =>
    match valueOf names fuel p number key with
    | .ok (.scalar k) =>
      match valueOf names fuel p number item with
      | .ok v =>
        entriesOf names fuel p (number + 1) (insertKey (ownKey? names p number key k) k v before) rest
      | .fault d f =>
        -- a fault further inside is reported only if the other entries have none
        if p.length < d then
          .both (fun (_ : Unit) e => e) (.fault d f) (entriesOf names fuel p (number + 1) before rest)
        else .fault d f
    | .ok _ => .malformed p.length
    | .fault d f => if p.length < d then .malformed p.length else .fault d f

end

mutual

/-- The number of nodes in a node. -/
def Node.size : Node → Nat
  | .scalar _ _ => 1
  | .sequence _ items => 1 + sizes items
  | .mapping _ entries => 1 + entrySizes entries
  | .inside _ => 1
  | .named _ n => 1 + n.size

/-- The number of nodes in nodes. -/
def Node.sizes : List Node → Nat
  | [] => 0
  | item :: rest => size item + sizes rest

/-- The number of nodes in entries. -/
def Node.entrySizes : List (Node × Node) → Nat
  | [] => 0
  | (key, item) :: rest => size key + size item + entrySizes rest

end

/-- The value of a document. -/
def Node.value (n : Node) : Except Fault Value :=
  let fuel := 4 * n.size + 8
  (valueOf (keyNames fuel [] 0 n) fuel [] 0 n).toExcept

/-- The values of the documents that are left, each read before the next is looked for. -/
def documentsFrom (fuel : Nat) (first : Bool) (r : Reader) : Except Fault (List Value) :=
  match fuel with
  | 0 => malformed
  | fuel + 1 => do
    match ← readDocument? first r with
    | none => return []
    | some (n, r) =>
      let v ← n.value
      let rest ← documentsFrom fuel false r
      return v :: rest

/-- The documents of a text. -/
def load (s : Source) : Except Fault (List Value) :=
  let (tokens, fault) := tokens s
  documentsFrom (tokens.length + 2) true ⟨tokens, fault, []⟩

end InfluxKeeper.Yaml
