import InfluxKeeper.Proofs.Fleet.Turns
import InfluxKeeper.Proofs.Reconcile.Pointers

/-!
# What a record reads of other records

A record reads other records through its pointers only, and its pointers lead to records of other kinds than
its own. So two resolvers are the same to it as soon as they agree on those kinds.

> `Fleet.agreesOn_resolver`: resolvers of the records at places agree on a kind if the records of that kind are
> the same.

A directory keeps the records of a kind apart from the others (`ofKind_ofRecords`), and a turn touches a
record of one kind (`Turns.sameOf`).
-/

namespace InfluxKeeper

/-- Resolvers that know the same of the records of a kind. -/
structure Resolver.AgreesOn (n n' : Resolver) (k : Kind) : Prop where
  resolve : ∀ name identity, n'.resolve? k.name name identity = n.resolve? k.name name identity
  select : ∀ labels, n'.select? k.name labels = n.select? k.name labels

/-- Resolvers, if there are any, that know the same of what the pointers of a record lead to. -/
def Record.ReadsAlike (r : Record) : Option Resolver → Option Resolver → Prop
  | none, none => True
  | some n, some n' => ∀ x ∈ r.resource.pointers, n.AgreesOn n' x.kind
  | _, _ => False

namespace Resolver

variable {n n' : Resolver} {k : Kind}

theorem AgreesOn.pick (h : n.AgreesOn n' k) (reference : Option Reference) (selector : Option Selector)
    (isOpen : Bool) :
    n'.pick k.name reference selector isOpen = n.pick k.name reference selector isOpen := by
  unfold Resolver.pick
  cases reference with
  | some ref => rfl
  | none =>
    cases selector with
    | none => rfl
    | some selector => dsimp only; rw [h.select]

theorem AgreesOn.fieldOr (h : n.AgreesOn n' k) (i : Identity) (reference : Option Reference)
    (current : Value) :
    n'.fieldOr k.name i reference current = n.fieldOr k.name i reference current := by
  unfold Resolver.fieldOr
  cases reference with
  | none => rfl
  | some ref => rw [Option.bind_some, Option.bind_some, h.resolve]

end Resolver

/-! ## Records -/

namespace Record

/-- A record is resolved alike by resolvers that agree on what its pointers lead to. -/
theorem resolve_congr {n n' : Resolver} {r : Record}
    (h : ∀ x ∈ r.resource.pointers, n.AgreesOn n' x.kind) : r.resolve n' = r.resolve n := by
  unfold resolve
  cases hr : r.resource with
  | organization p o => rfl
  | bucket p o =>
    rw [hr] at h
    have horg := h _ (List.mem_singleton_self _)
    dsimp only at horg ⊢
    simp only [Bucket.Parameters.resolve, horg.pick, horg.fieldOr]
  | mapping p o =>
    rw [hr] at h
    have hbucket := h _ List.mem_cons_self
    have horg := h _ (List.mem_cons_of_mem _ (List.mem_singleton_self _))
    dsimp only at hbucket horg ⊢
    simp only [Mapping.Parameters.resolve, hbucket.pick, hbucket.fieldOr, horg.pick, horg.fieldOr]

theorem ReadsAlike.refl (r : Record) (resolver : Option Resolver) : r.ReadsAlike resolver resolver := by
  cases resolver with
  | none => trivial
  | some n => exact fun _ _ => ⟨fun _ _ => rfl, fun _ => rfl⟩

/-- Which resolvers are the same to a record depends on the kind of the record. -/
theorem readsAlike_of_kinds {n n' : Resolver} {r : Record}
    (h : ∀ k, k ≠ r.kind → n.AgreesOn n' k) : r.ReadsAlike (some n) (some n') := by
  intro x hx
  refine h x.kind fun hk => ?_
  have hlt := Resource.kind_lt_of_mem_pointers hx
  rw [hk] at hlt
  exact Nat.lt_irrefl _ hlt

end Record

/-! ## Directories -/

namespace Directory

/-- The records of a kind in a directory. -/
def ofKind (k : Kind) (d : Directory) : Directory := d.filter (·.kind = k)

theorem ofKind_cons_of_eq {k : Kind} {x : Record} (h : x.kind = k) (d : Directory) :
    ofKind k (x :: d) = x :: d.ofKind k :=
  List.filter_cons_of_pos (by simpa using h)

theorem ofKind_cons_of_ne {k : Kind} {x : Record} (h : x.kind ≠ k) (d : Directory) :
    ofKind k (x :: d) = d.ofKind k :=
  List.filter_cons_of_neg (by simpa using h)

/-- A record entered is entered among those of its kind. -/
theorem ofKind_enter_of_eq {k : Kind} {r : Record} (hr : r.kind = k) (d : Directory) :
    (d.enter r).ofKind k = (d.ofKind k).enter r := by
  induction d with
  | nil => exact ofKind_cons_of_eq hr []
  | cons x rest ih =>
    rw [enter]
    by_cases hsame : x.kind = r.kind ∧ x.name = r.name
    · rw [if_pos hsame, ofKind_cons_of_eq hr, ofKind_cons_of_eq (hsame.1.trans hr), enter, if_pos hsame]
    · rw [if_neg hsame]
      by_cases hx : x.kind = k
      · rw [ofKind_cons_of_eq hx, ofKind_cons_of_eq hx, enter, if_neg hsame, ih]
      · rw [ofKind_cons_of_ne hx, ofKind_cons_of_ne hx, ih]

/-- The others are not touched. -/
theorem ofKind_enter_of_ne {k : Kind} {r : Record} (hr : r.kind ≠ k) (d : Directory) :
    (d.enter r).ofKind k = d.ofKind k := by
  induction d with
  | nil => exact ofKind_cons_of_ne hr []
  | cons x rest ih =>
    rw [enter]
    by_cases hsame : x.kind = r.kind ∧ x.name = r.name
    · have hx : x.kind ≠ k := fun h => hr (hsame.1.symm.trans h)
      rw [if_pos hsame, ofKind_cons_of_ne hr, ofKind_cons_of_ne hx]
    · rw [if_neg hsame]
      by_cases hx : x.kind = k
      · rw [ofKind_cons_of_eq hx, ofKind_cons_of_eq hx, ih]
      · rw [ofKind_cons_of_ne hx, ofKind_cons_of_ne hx, ih]

/-- The records of a kind in a directory of records are those of that kind. -/
theorem ofKind_ofRecords (k : Kind) (records : List Record) :
    (ofRecords records).ofKind k = ofRecords (records.filter (·.kind = k)) := by
  have hfold (d : Directory) : (records.foldl (fun d r => d.enter r) d).ofKind k
      = (records.filter (·.kind = k)).foldl (fun d r => d.enter r) (d.ofKind k) := by
    induction records generalizing d with
    | nil => rfl
    | cons r rest ih =>
      rw [List.foldl_cons, ih]
      by_cases hr : r.kind = k
      · rw [ofKind_enter_of_eq hr, List.filter_cons_of_pos (by simpa using hr), List.foldl_cons]
      · rw [ofKind_enter_of_ne hr, List.filter_cons_of_neg (by simpa using hr)]
  exact hfold []

/-- Directories with the same records of a kind agree on it. -/
theorem agreesOn_of_ofKind {d d' : Directory} {k : Kind} (h : d'.ofKind k = d.ofKind k) :
    d.resolver.AgreesOn d'.resolver k := by
  have hname (r : Record) : r.kind.name = k.name ↔ r.kind = k :=
    ⟨fun h => by simpa using congrArg Kind.ofName? h, fun h => congrArg Kind.name h⟩
  have hfind (d : Directory) (name : String) :
      d.find? k.name name = (d.ofKind k).find? k.name name := by
    unfold find? ofKind
    rw [List.find?_filter]
    exact congrFun (congrArg List.find? (funext fun r => by simp [hname])) d
  have hselect (d : Directory) (labels : List (String × Value)) :
      d.select? k.name labels = (d.ofKind k).select? k.name labels := by
    unfold select? ofKind
    rw [List.find?_filter]
    exact congrArg (Option.map Record.name)
      (congrFun (congrArg List.find? (funext fun r => by simp [hname])) d)
  constructor
  · intro name i
    show d'.resolve? k.name name i = d.resolve? k.name name i
    unfold resolve?
    rw [hfind d', hfind d, h]
  · intro labels
    show d'.select? k.name labels = d.select? k.name labels
    rw [hselect d', hselect d, h]

end Directory

/-! ## Fleets -/

namespace Fleet

variable {s : Setup} {names : Option Places}

/-- Fleets that have the same records of a kind, each at its place. -/
def SameOf (k : Kind) (f g : Fleet) : Prop :=
  ∀ place : Nat, (g.records[place]?).filter (·.kind = k) = (f.records[place]?).filter (·.kind = k)

theorem SameOf.trans {k : Kind} {f g h : Fleet} (hfg : SameOf k f g) (hgh : SameOf k g h) :
    SameOf k f h :=
  fun place => (hgh place).trans (hfg place)

theorem SameOf.symm {k : Kind} {f g : Fleet} (h : SameOf k f g) : SameOf k g f :=
  fun place => (h place).symm

/-- **Resolvers of the records at places agree on a kind** if the records of that kind are the same. -/
theorem agreesOn_resolver {k : Kind} {f g : Fleet} (h : SameOf k f g) (places : Places) :
    (f.resolver places).AgreesOn (g.resolver places) k := by
  refine Directory.agreesOn_of_ofKind ?_
  unfold directory
  rw [Directory.ofKind_ofRecords, Directory.ofKind_ofRecords, List.filter_filterMap, List.filter_filterMap]
  exact congrArg (fun lookup => Directory.ofRecords (places.filterMap lookup)) (funext h)

/-- A record reads alike among records whose other kinds are the same. -/
theorem readsAlike_of_sameOf {r : Record} {f g : Fleet} (h : ∀ k, k ≠ r.kind → SameOf k f g)
    (names : Option Places) : r.ReadsAlike (names.map f.resolver) (names.map g.resolver) := by
  cases names with
  | none => trivial
  | some places => exact Record.readsAlike_of_kinds fun k hne => agreesOn_resolver (h k hne) places

/-- A turn leaves the records of other kinds than that of its own record. -/
theorem Turns.sameOf {t : Turn} {f g : Fleet} (h : Turns s names [t] f g) {r : Record}
    (hr : f.records[t.place]? = some r) {k : Kind} (hk : k ≠ r.kind) : SameOf k f g := by
  intro place
  by_cases hp : t.place = place
  · obtain ⟨-, -, hrecord⟩ := h.of_some hr
    have hkind := congrArg Prod.fst (Work.card_reconcile s (names.map f.resolver) (f.work r))
    rw [← hp, hr, hrecord, Option.filter_some, Option.filter_some]
    rw [show ((f.work r).reconcile s (names.map f.resolver)).2.record.kind = r.kind from hkind]
    simp [hk.symm]
  · rw [h.records_of_notMem (by simpa using hp)]

end Fleet

end InfluxKeeper
