import InfluxKeeper.Number.Binary64
import InfluxKeeper.Time.Timestamp

/-!
# Untyped values

What a JSON text or a manifest document holds before it is checked: scalars, lists and maps, and the
pairs and sets that a manifest can spell. A map keeps its entries in the order in which their keys came
up first. Keys are scalars; numbers and truth values that count as equal are one key, and so are two NaN.

Main statements: `get?_insert_self` and `get?_insert_of_ne` say that an insertion is seen under its own
key and under no other.
-/

namespace InfluxKeeper

/-- A value without parts. -/
inductive Scalar
  | null
  | bool (b : Bool)
  | int (n : Int)
  | float (x : Binary64)
  | text (s : String)
  | bytes (octets : List UInt8)
  | date (d : Date)
  | time (t : Timestamp)
  deriving DecidableEq, Repr

/-- A value. -/
inductive Value
  | scalar (s : Scalar)
  | list (items : List Value)
  | map (entries : List (Scalar × Value))
  | tuple (items : List Value)
  | set (items : List Scalar)

namespace Scalar

/-- The number that a scalar counts as: truth values are 0 and 1. -/
def number? : Scalar → Option (Int ⊕ Binary64)
  | .bool b => some (.inl (if b then 1 else 0))
  | .int n => some (.inl n)
  | .float x => some (.inr x)
  | _ => none

/-- Whether a whole number and a double are equal. -/
def intSame (n : Int) (x : Binary64) : Bool := x.toInt? == some n

/-- Equality of scalars: numbers and truth values by their number, all else by kind and content. -/
def same (a b : Scalar) : Bool :=
  match a.number?, b.number? with
  | some (.inl m), some (.inl n) => m == n
  | some (.inl m), some (.inr y) => intSame m y
  | some (.inr x), some (.inl n) => intSame n x
  | some (.inr x), some (.inr y) => x.sameNumber y
  | none, none => a == b
  | _, _ => false

/-- Whether two scalars are one as parts of a collection: NaN, which equals nothing, is one with itself
there. -/
def isOne (a b : Scalar) : Bool := a == b || a.same b

/-- Two texts count as the same exactly if they are equal. -/
@[simp] theorem same_text_text (s t : String) : same (.text s) (.text t) = decide (s = t) := by
  by_cases h : s = t <;> simp [same, number?, h]

/-- Two texts are one exactly if they are equal. -/
@[simp] theorem isOne_text_text (s t : String) : isOne (.text s) (.text t) = decide (s = t) := by
  by_cases h : s = t <;> simp [isOne, h]

/-- A scalar is one with itself. -/
@[simp] theorem isOne_self (a : Scalar) : a.isOne a = true := by simp [isOne]

/-- Whether a scalar counts as true: null, zero and the empty text do not. -/
def truthy : Scalar → Bool
  | .null => false
  | .bool b => b
  | .int n => n != 0
  | .float x => !x.isZero
  | .text s => s != ""
  | .bytes octets => !octets.isEmpty
  | .date _ => true
  | .time _ => true

end Scalar

namespace Value

@[match_pattern] abbrev null : Value := .scalar .null
@[match_pattern] abbrev bool (b : Bool) : Value := .scalar (.bool b)
@[match_pattern] abbrev int (n : Int) : Value := .scalar (.int n)
@[match_pattern] abbrev float (x : Binary64) : Value := .scalar (.float x)
@[match_pattern] abbrev text (s : String) : Value := .scalar (.text s)

instance : Inhabited Value := ⟨null⟩

/-- Whether a value counts as true: null, zero and whatever is empty do not. -/
def truthy : Value → Bool
  | .scalar s => s.truthy
  | .list items => !items.isEmpty
  | .map entries => !entries.isEmpty
  | .tuple items => !items.isEmpty
  | .set items => !items.isEmpty

/-- A value if it counts as true, else another. -/
def orElse (v other : Value) : Value := if v.truthy then v else other

/-- Whether a value is null. -/
def isNull : Value → Bool
  | null => true
  | _ => false

/-- Only null is null. -/
theorem eq_null_of_isNull {v : Value} (h : v.isNull = true) : v = null := by
  unfold isNull at h
  split at h
  · rfl
  · cases h

/-- What counts as true is not null. -/
theorem isNull_of_truthy {v : Value} (h : v.truthy = true) : v.isNull = false := by
  unfold isNull
  split
  · cases h
  · rfl

/-- A text stands for itself where the empty text stands for none. -/
theorem orElse_text (s : String) : (text s).orElse (text "") = text s := by
  by_cases hs : s = "" <;> simp [orElse, truthy, Scalar.truthy, hs]

/-- The name of a value's type in messages. -/
def typeName : Value → String
  | .scalar .null => "NoneType"
  | .scalar (.bool _) => "bool"
  | .scalar (.int _) => "int"
  | .scalar (.float _) => "float"
  | .scalar (.text _) => "str"
  | .scalar (.bytes _) => "bytes"
  | .scalar (.date _) => "date"
  | .scalar (.time _) => "datetime"
  | .list _ => "list"
  | .map _ => "dict"
  | .tuple _ => "tuple"
  | .set _ => "set"

/-- A map with text keys. -/
def object (entries : List (String × Value)) : Value :=
  .map (entries.map fun e => (.text e.1, e.2))

/-- A list of texts. -/
def texts (items : List String) : Value := .list (items.map text)

/-- A text, or null for none. -/
def ofText? : Option String → Value
  | some s => text s
  | none => null

end Value

/-- The entries of a map, in order. -/
abbrev Entries := List (Scalar × Value)

namespace Entries

/-- The value under a key. -/
def find? (entries : Entries) (key : Scalar) : Option Value :=
  (List.find? (fun e => e.1.isOne key) entries).map (·.2)

/-- The value under a text key. -/
def get? (entries : Entries) (key : String) : Option Value := find? entries (.text key)

/-- The value under a text key, null if there is none. -/
def get (entries : Entries) (key : String) : Value := (get? entries key).getD .null

/-- Entries with a value under a key: in place of the old value, or at the end. -/
def insert (key : Scalar) (value : Value) : Entries → Entries
  | [] => [(key, value)]
  | e :: rest => if e.1.isOne key then (e.1, value) :: rest else e :: insert key value rest

/-- Entries inserted one after the other. -/
def ofList (entries : List (Scalar × Value)) : Entries :=
  entries.foldl (fun acc e => insert e.1 e.2 acc) []

/-- An insertion is seen under its key. -/
theorem get?_insert_self (key : String) (value : Value) (entries : Entries) :
    get? (insert (.text key) value entries) key = some value := by
  induction entries with
  | nil => simp [get?, find?, insert]
  | cons e rest ih =>
    by_cases h : e.1.isOne (.text key) = true
    · simp [get?, find?, insert, h]
    · simp only [get?, find?, insert, h] at ih ⊢
      simpa [h] using ih

/-- An insertion is not seen under another key. -/
theorem get?_insert_of_ne {key other : String} (h : key ≠ other) (value : Value)
    (entries : Entries) : get? (insert (.text key) value entries) other = get? entries other := by
  induction entries with
  | nil => simp [get?, find?, insert, h]
  | cons e rest ih =>
    by_cases hk : e.1.isOne (.text key) = true
    · have ho : e.1.isOne (.text other) = false := by
        cases hs : e.1 with
        | text s =>
          rw [hs] at hk
          have : s = key := by simpa using hk
          simp [this, h]
        | _ => simp_all [Scalar.isOne, Scalar.same, Scalar.number?]
      simp [get?, find?, insert, hk, ho]
    · by_cases ho : e.1.isOne (.text other) = true
      · simp [get?, find?, insert, hk, ho]
      · simp only [get?, find?, insert, hk] at ih ⊢
        simpa [ho] using ih

end Entries

end InfluxKeeper
