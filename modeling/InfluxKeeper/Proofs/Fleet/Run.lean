import InfluxKeeper.Reconcile.Converge

/-!
# Runs of a fleet

A run is any sequence of what can be asked of a controller: a look at a record, a reconcile of a record or of
several, a convergence. Whatever is asked for, the work is done record by record. A `Visit` is the work on one
record, with references resolved among the records that stand at given places then.

> `run_visits`: a run is a sequence of visits, each to a place and with the references of the operation that
> it belongs to; also if the run ends in a fault.

So what every visit keeps, every run keeps: a statement about runs needs a lemma about one visit and an
induction over visits, and no statement has to look into the loops of a convergence again.
-/

namespace InfluxKeeper

/-- The work on one record of a fleet: it is looked at, or reconciled. References are resolved among the
records at the places given, if any are given. -/
structure Visit where
  place : Nat
  names : Option Places
  looks : Bool
  deriving DecidableEq, Repr

/-- A record in work after a visit: looked at, or reconciled. -/
def Work.visit (s : Setup) (resolver : Option Resolver) (looks : Bool) (w : Work) : Work :=
  if looks then (w.observe s resolver).2 else (w.reconcile s resolver).2

/-- What can be asked of a controller. -/
inductive Operation
  | observe (names : Option Places) (place : Nat)
  | reconcile (names : Option Places) (place : Nat)
  | reconcileAll (names : Option Places) (places : Places)
  | converge (names : Option Places) (places : Places) (maxPasses : Option Int) (order : List String)
  deriving DecidableEq, Repr

namespace Fleet

/-- Looks at the record at a place. -/
def observeAt (s : Setup) (names : Option Places) (place : Nat) (f : Fleet) :
    Except Fault Sight × Fleet :=
  f.workAt place fun w =>
    let (seen, w) := w.observe s (names.map f.resolver)
    (sightOf seen, w)

/-- A fleet after a visit. -/
def visit (s : Setup) (v : Visit) (f : Fleet) : Fleet :=
  if v.looks then (f.observeAt s v.names v.place).2 else (f.reconcileAt s v.names v.place).2

/-- A fleet after visits, one after the other. -/
def visits (s : Setup) (vs : List Visit) (f : Fleet) : Fleet := vs.foldl (fun f v => f.visit s v) f

end Fleet

namespace Operation

/-- A fleet after an operation, also if that ends in a fault. -/
def run (s : Setup) : Operation → Fleet → Fleet
  | observe names place, f => (f.observeAt s names place).2
  | reconcile names place, f => (f.reconcileAt s names place).2
  | reconcileAll names places, f => (f.reconcileAll s names places).2
  | converge names places maxPasses order, f => (f.converge s names places maxPasses order).2

/-- The visits that may belong to an operation. A convergence resolves references among its own records
unless other ones are given. -/
def Includes : Operation → Visit → Prop
  | observe names place, v => v = ⟨place, names, true⟩
  | reconcile names place, v => v = ⟨place, names, false⟩
  | reconcileAll names places, v => v.place ∈ places ∧ v.names = names ∧ v.looks = false
  | converge names places _ _, v =>
    v.place ∈ places ∧ v.names = some (names.getD places) ∧ v.looks = false

end Operation

namespace Fleet

/-- A fleet after operations, one after the other. -/
def run (s : Setup) (ops : List Operation) (f : Fleet) : Fleet := ops.foldl (fun f op => op.run s f) f

variable {s : Setup} {names : Option Places}

theorem visits_append (vs ws : List Visit) (f : Fleet) :
    f.visits s (vs ++ ws) = (f.visits s vs).visits s ws :=
  List.foldl_append

/-! ## Operations as visits -/

/-- The visit that reconciles the record at a place. -/
def reconciling (names : Option Places) (place : Nat) : Visit := ⟨place, names, false⟩

theorem reconcileEach_visits (places : Places) (f : Fleet) :
    (reconcileEach s names places f).2 = f.visits s (places.map (reconciling names)) := by
  induction places generalizing f with
  | nil => rfl
  | cons place rest ih => exact ih (f.reconcileAt s names place).2

/-- Fleets that are reached from a fleet by reconciles of records at some of given places. -/
def ReachedWithin (s : Setup) (names : Option Places) (places : Places) (f f' : Fleet) : Prop :=
  ∃ visited : Places, visited ⊆ places ∧ f' = f.visits s (visited.map (reconciling names))

theorem ReachedWithin.refl (places : Places) (f : Fleet) : ReachedWithin s names places f f :=
  ⟨[], List.nil_subset _, rfl⟩

theorem ReachedWithin.trans {places : Places} {f f' f'' : Fleet}
    (h : ReachedWithin s names places f f') (h' : ReachedWithin s names places f' f'') :
    ReachedWithin s names places f f'' := by
  obtain ⟨visited, hv, rfl⟩ := h
  obtain ⟨visited', hv', rfl⟩ := h'
  refine ⟨visited ++ visited', List.append_subset.mpr ⟨hv, hv'⟩, ?_⟩
  rw [List.map_append, visits_append]

theorem ReachedWithin.mono {places places' : Places} {f f' : Fleet} (hp : places ⊆ places')
    (h : ReachedWithin s names places f f') : ReachedWithin s names places' f f' := by
  obtain ⟨visited, hv, rfl⟩ := h
  exact ⟨visited, fun _ h => hp (hv h), rfl⟩

theorem reconcileAll_reached (places : Places) (f : Fleet) :
    ReachedWithin s names places f (f.reconcileAll s names places).2 := by
  unfold reconcileAll
  split
  · exact ⟨places, List.Subset.refl _, reconcileEach_visits places f⟩
  · exact .refl places f

/-- The places that stay pending are among those that were. -/
theorem pending_subset (pending : List (Nat × Nat)) (outcomes : List Result) :
    (((pending.zip outcomes).filter fun e => changing e.2).map (·.1)).map (·.2)
      ⊆ pending.map (·.2) := by
  intro place h
  obtain ⟨e, he, rfl⟩ := List.mem_map.mp h
  obtain ⟨t, ht, rfl⟩ := List.mem_map.mp he
  exact List.mem_map_of_mem (List.of_mem_zip (List.mem_filter.mp ht).1).1

theorem passes_reached (names : Option Places) (limit : Nat) (pending : List (Nat × Nat))
    (results : Results) (f : Fleet) :
    ReachedWithin s names (pending.map (·.2)) f (passes s names limit pending results f).2 := by
  induction limit generalizing pending results f with
  | zero => unfold passes; exact .refl _ f
  | succ limit ih =>
    cases pending with
    | nil => exact .refl _ f
    | cons e rest =>
      -- one pass over all that is pending, and then the rest over some of it
      have hstep : ReachedWithin s names ((e :: rest).map (·.2)) f
          (f.reconcileAll s names ((e :: rest).map (·.2))).2 := reconcileAll_reached _ f
      unfold passes
      split
      · next hr => rw [hr] at hstep; exact hstep
      · next outcomes f' hr =>
        rw [hr] at hstep
        exact hstep.trans ((ih _ _ f').mono (pending_subset (e :: rest) outcomes))

theorem passesByKind_reached (names : Option Places) (limit : Nat) (numbered : List (Nat × Nat))
    (order : List String) (results : Results) (f : Fleet) :
    ReachedWithin s names (numbered.map (·.2)) f
      (passesByKind s names limit numbered order results f).2 := by
  induction order generalizing results f with
  | nil => exact .refl _ f
  | cons kind rest ih =>
    have hstep := passes_reached (s := s) names limit
      (numbered.filter fun e => (f.records[e.2]?).any (·.kind.name = kind)) results f
    have hsub : (numbered.filter fun e => (f.records[e.2]?).any (·.kind.name = kind)).map (·.2)
        ⊆ numbered.map (·.2) := List.map_subset _ List.filter_sublist.subset
    unfold passesByKind
    dsimp only
    split
    · next hr => rw [hr] at hstep; exact hstep.mono hsub
    · next results' f' hr =>
      rw [hr] at hstep
      exact (hstep.mono hsub).trans (ih results' f')

theorem converge_reached (names : Option Places) (places : Places) (maxPasses : Option Int)
    (order : List String) (f : Fleet) :
    ReachedWithin s (some (names.getD places)) places f
      (f.converge s names places maxPasses order).2 := by
  -- the numbers under which results are kept do not change the places
  have hplaces : (places.zipIdx.map fun e => (e.2, e.1)).map (·.2) = places := by
    rw [List.map_map]
    exact List.zipIdx_map_fst 0 places
  unfold converge
  dsimp only
  split
  · exact .refl places f
  · have h := passesByKind_reached (s := s) (some (names.getD places))
      (passLimit s maxPasses) (places.zipIdx.map fun e => (e.2, e.1)) order [] f
    rw [hplaces] at h
    split <;> next hr => rw [hr] at h; exact h

/-! ## Runs as visits -/

theorem operation_visits (op : Operation) (f : Fleet) :
    ∃ vs, (∀ v ∈ vs, op.Includes v) ∧ op.run s f = f.visits s vs := by
  cases op with
  | observe names place => exact ⟨[⟨place, names, true⟩], by simp [Operation.Includes], rfl⟩
  | reconcile names place => exact ⟨[⟨place, names, false⟩], by simp [Operation.Includes], rfl⟩
  | reconcileAll names places =>
    obtain ⟨visited, hsub, hrun⟩ : ReachedWithin s names places f _ := reconcileAll_reached places f
    refine ⟨visited.map (reconciling names), ?_, hrun⟩
    intro v hv
    obtain ⟨place, hplace, rfl⟩ := List.mem_map.mp hv
    exact ⟨hsub hplace, rfl, rfl⟩
  | converge names places maxPasses order =>
    obtain ⟨visited, hsub, hrun⟩ := converge_reached (s := s) names places maxPasses order f
    refine ⟨visited.map (reconciling (some (names.getD places))), ?_, hrun⟩
    intro v hv
    obtain ⟨place, hplace, rfl⟩ := List.mem_map.mp hv
    exact ⟨hsub hplace, rfl, rfl⟩

/-- **A run is a sequence of visits**, each of which belongs to one of its operations. -/
theorem run_visits (ops : List Operation) (f : Fleet) :
    ∃ vs, (∀ v ∈ vs, ∃ op ∈ ops, op.Includes v) ∧ f.run s ops = f.visits s vs := by
  induction ops generalizing f with
  | nil => exact ⟨[], by simp, rfl⟩
  | cons op rest ih =>
    obtain ⟨vs, hvs, hrun⟩ := operation_visits (s := s) op f
    obtain ⟨ws, hws, hrest⟩ := ih (op.run s f)
    refine ⟨vs ++ ws, ?_, ?_⟩
    · intro v hv
      rcases List.mem_append.mp hv with hv | hv
      · exact ⟨op, List.mem_cons_self, hvs v hv⟩
      · obtain ⟨op', hop', hin⟩ := hws v hv
        exact ⟨op', List.mem_cons_of_mem _ hop', hin⟩
    · rw [visits_append, ← hrun]
      exact hrest

/-! ## What a visit does to the records -/

/-- What work on the record at a place leaves there; the records at other places stay. -/
theorem records_workAt {α : Type} {f : Fleet} {place : Nat} {r : Record}
    (work : Work → Except Fault α × Work) (h : f.records[place]? = some r) (other : Nat) :
    (f.workAt place work).2.records[other]? =
      if place = other then some (work ⟨r, f.wire, f.events⟩).2.record else f.records[other]? := by
  unfold workAt
  rw [h]
  dsimp only
  rw [List.getElem?_set]
  have hlt : place < f.records.length := (List.getElem?_eq_some_iff.mp h).1
  by_cases hp : place = other
  · rw [if_pos hp, if_pos hp, if_pos hlt]
  · rw [if_neg hp, if_neg hp]

/-- Work at a place beyond the records does nothing. -/
theorem workAt_of_none {α : Type} {f : Fleet} {place : Nat} (work : Work → Except Fault α × Work)
    (h : f.records[place]? = none) : (f.workAt place work).2 = f := by
  unfold workAt
  rw [h]

/-- What a visit leaves at its place: its work done on the record there. The records at other places
stay. -/
theorem records_visit {f : Fleet} {v : Visit} {r : Record} (h : f.records[v.place]? = some r)
    (other : Nat) :
    (f.visit s v).records[other]? =
      if v.place = other then
        some ((⟨r, f.wire, f.events⟩ : Work).visit s (v.names.map f.resolver) v.looks).record
      else f.records[other]? := by
  unfold visit Work.visit
  cases v.looks with
  | true => exact records_workAt _ h other
  | false => exact records_workAt _ h other

/-- A visit to a place beyond the records does nothing. -/
theorem visit_of_none {f : Fleet} {v : Visit} (h : f.records[v.place]? = none) : f.visit s v = f := by
  unfold visit
  cases v.looks with
  | true => exact workAt_of_none _ h
  | false => exact workAt_of_none _ h

end Fleet

end InfluxKeeper
