import InfluxKeeper.Value.Basic

/-!
# Equality of values

Two equalities. Identity of values is decidable: same shape, same scalars, same order of keys. Values
count as the same (`Value.same`) if their numbers are equal as numbers and their maps hold the same keys
in any order; a description that is compared with the server's is compared in this sense. NaN does not
count as the same as itself, but a collection that holds it does.
-/

namespace InfluxKeeper

mutual

/-- Decides whether two values are identical. -/
def Value.decideEq : (a b : Value) → Decidable (a = b)
  | .scalar s, .scalar t =>
    if h : s = t then .isTrue (h ▸ rfl) else .isFalse fun e => h (Value.scalar.inj e)
  | .list xs, .list ys =>
    match decideEqList xs ys with
    | .isTrue h => .isTrue (h ▸ rfl)
    | .isFalse h => .isFalse fun e => h (Value.list.inj e)
  | .map xs, .map ys =>
    match decideEqEntries xs ys with
    | .isTrue h => .isTrue (h ▸ rfl)
    | .isFalse h => .isFalse fun e => h (Value.map.inj e)
  | .tuple xs, .tuple ys =>
    match decideEqList xs ys with
    | .isTrue h => .isTrue (h ▸ rfl)
    | .isFalse h => .isFalse fun e => h (Value.tuple.inj e)
  | .set xs, .set ys =>
    if h : xs = ys then .isTrue (h ▸ rfl) else .isFalse fun e => h (Value.set.inj e)
  | .scalar _, .list _ | .scalar _, .map _ | .scalar _, .tuple _ | .scalar _, .set _
  | .list _, .scalar _ | .list _, .map _ | .list _, .tuple _ | .list _, .set _
  | .map _, .scalar _ | .map _, .list _ | .map _, .tuple _ | .map _, .set _
  | .tuple _, .scalar _ | .tuple _, .list _ | .tuple _, .map _ | .tuple _, .set _
  | .set _, .scalar _ | .set _, .list _ | .set _, .map _ | .set _, .tuple _ =>
    .isFalse nofun

/-- Decides whether two lists of values are identical. -/
def Value.decideEqList : (xs ys : List Value) → Decidable (xs = ys)
  | [], [] => .isTrue rfl
  | [], _ :: _ => .isFalse nofun
  | _ :: _, [] => .isFalse nofun
  | x :: xs, y :: ys =>
    match decideEq x y with
    | .isFalse h => .isFalse fun e => h (List.cons.inj e).1
    | .isTrue h =>
      match decideEqList xs ys with
      | .isTrue t => .isTrue (h ▸ t ▸ rfl)
      | .isFalse t => .isFalse fun e => t (List.cons.inj e).2

/-- Decides whether two lists of entries are identical. -/
def Value.decideEqEntries : (xs ys : List (Scalar × Value)) → Decidable (xs = ys)
  | [], [] => .isTrue rfl
  | [], _ :: _ => .isFalse nofun
  | _ :: _, [] => .isFalse nofun
  | (k, x) :: xs, (l, y) :: ys =>
    if hk : k = l then
      match decideEq x y with
      | .isFalse h => .isFalse fun e => h (Prod.mk.inj (List.cons.inj e).1).2
      | .isTrue h =>
        match decideEqEntries xs ys with
        | .isTrue t => .isTrue (hk ▸ h ▸ t ▸ rfl)
        | .isFalse t => .isFalse fun e => t (List.cons.inj e).2
    else .isFalse fun e => hk (Prod.mk.inj (List.cons.inj e).1).1

end

instance : DecidableEq Value := Value.decideEq

mutual

/-- Whether two values are one as parts of a collection. -/
def Value.isOne : Value → Value → Bool
  | .scalar s, .scalar t => s.isOne t
  | .list xs, .list ys => areOne xs ys
  | .tuple xs, .tuple ys => areOne xs ys
  | .map xs, .map ys => xs.length == ys.length && entriesIn xs ys
  | .set xs, .set ys => xs.length == ys.length && xs.all fun x => ys.any x.isOne
  | _, _ => false

/-- Whether the values of two lists are one in their order. -/
def Value.areOne : List Value → List Value → Bool
  | [], [] => true
  | x :: xs, y :: ys => isOne x y && areOne xs ys
  | _, _ => false

/-- Whether every entry has its value under its key among other entries. -/
def Value.entriesIn : List (Scalar × Value) → List (Scalar × Value) → Bool
  | [], _ => true
  | (k, x) :: xs, ys =>
    (match Entries.find? ys k with
      | some y => isOne x y
      | none => false) && entriesIn xs ys

end

/-- Whether two values count as the same. -/
def Value.same : Value → Value → Bool
  | .scalar s, .scalar t => s.same t
  | x, y => x.isOne y

/-- Two texts count as the same exactly if they are equal. -/
@[simp] theorem Value.same_text_text (s t : String) :
    Value.same (.text s) (.text t) = decide (s = t) := by
  simp [Value.same]

end InfluxKeeper
