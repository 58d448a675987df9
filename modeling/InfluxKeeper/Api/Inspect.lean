import InfluxKeeper.Api.Fault

/-!
# Looking into answers

An answer may hold any JSON, so every look into it can fail: entries are looked up in maps only, items
are taken of whatever has items (the letters of a text, the keys of a map), and pairs are entered into a
map one by one.
-/

namespace InfluxKeeper

/-- An entry of a map, or the given value if it does not count as true. -/
def Entries.getOr (entries : Entries) (key : String) (other : Value) : Value :=
  (entries.get key).orElse other

/-- A part of an answer that has to fit its model. -/
def Schema.fit {α : Type} (title : String) (c : Schema.Checked α) : Except Fault α :=
  (c.orReject title).mapError .rejected

namespace Value

/-- The entry of a map under a key, null if there is none. -/
def getEntry (v : Value) (key : String) : Except Fault Value :=
  match v with
  | .map entries => .ok (Entries.get entries key)
  | v => .error (.noEntries v.typeName "get")

/-- The letters of a text, as values. -/
def letters (s : String) : List Value := s.toList.map fun c => .text (String.singleton c)

/-- The items of a value, if it has some. -/
def items? : Value → Option (List Value)
  | .list items => some items
  | .tuple items => some items
  | .set items => some (items.map .scalar)
  | .map entries => some (entries.map fun e => .scalar e.1)
  | .text s => some (letters s)
  | .scalar (.bytes octets) => some (octets.map fun b => .int b.toNat)
  | _ => none

/-- The items of a value. -/
def getItems (v : Value) : Except Fault (List Value) :=
  match v.items? with
  | some items => .ok items
  | none => .error (.noItems v.typeName)

/-- The first of a value that counts as true; a map has a first only under the key 0. -/
def getFirst (v : Value) : Except Fault Value :=
  match v with
  | .map entries =>
    match Entries.find? entries (.int 0) with
    | some item => .ok item
    | none => .error (.missingKey (.int 0))
  | v =>
    match v.items? with
    | some (item :: _) => .ok item
    | _ => .error (.noFirst v.typeName)

/-- A key that a pair gives. -/
def asKey : Value → Except Fault Scalar
  | .scalar s => .ok s
  | v => .error (.badKey v.typeName)

/-- The pairs of a list, entered into a map. -/
def enterPairs (entries : Entries) (place : Nat) : List Value → Except Fault Entries
  | [] => .ok entries
  | item :: rest =>
    match item.items? with
    | none => .error (.noPair place)
    | some [key, value] => do
      enterPairs (entries.insert (← asKey key) value) (place + 1) rest
    | some items => .error (.badPair place items.length)

/-- A value as a map: itself, or the pairs that it holds. -/
def asEntries (v : Value) : Except Fault Entries :=
  match v with
  | .map entries => .ok entries
  | v => do enterPairs [] 0 (← v.getItems)

end Value

end InfluxKeeper
