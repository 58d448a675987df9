import InfluxKeeper.Proofs.Fleet.Run
import InfluxKeeper.Proofs.Reconcile.Plan

/-!
# A run, turn by turn

A `Turn` is one reconcile in the course of a run: whose it was, how it ended, and what it sent. `Turns` says
that turns, one after the other, lead from one fleet to another; the requests of the run are those of its
turns, in their order. A turn touches the record at its place and no other (`Turns.records_of_notMem`), and
it keeps what that record is known by (`Turns.card`).

> `reconcileAll_turns`: reconciling several records is one turn of each, if there are slots for them, and its
> outcomes are theirs.
-/

namespace InfluxKeeper

open Api

/-- A reconcile in the course of a run: the place of its record, how it ended, and what it sent. -/
structure Turn where
  place : Nat
  outcome : Except Fault Result
  requests : List Request

namespace Fleet

variable {s : Setup} {names : Option Places}

/-- Turns that lead from one fleet to another, one after the other. -/
inductive Turns (s : Setup) (names : Option Places) : List Turn → Fleet → Fleet → Prop
  | nil (f : Fleet) : Turns s names [] f f
  | cons {t : Turn} {rest : List Turn} {f g f' : Fleet}
      (taken : f.reconcileAt s names t.place = (t.outcome, g))
      (sent : g.wire.sent = f.wire.sent ++ t.requests)
      (more : Turns s names rest g f') : Turns s names (t :: rest) f f'

/-- A record of a fleet in work. -/
def work (f : Fleet) (r : Record) : Work := ⟨r, f.wire, f.events⟩

/-! ## One turn -/

/-- A turn is a reconcile of the record at its place. It leaves the records at other places. -/
theorem reconcileAt_of_some {f g : Fleet} {place : Nat} {r : Record} {outcome : Except Fault Result}
    (h : f.records[place]? = some r) (taken : f.reconcileAt s names place = (outcome, g)) :
    outcome = ((f.work r).reconcile s (names.map f.resolver)).1 ∧
      g.wire.sent = f.wire.sent ++ (f.work r).requests s (names.map f.resolver) ∧
      ∀ other : Nat, g.records[other]? =
        if place = other then some ((f.work r).reconcile s (names.map f.resolver)).2.record
        else f.records[other]? := by
  have hrecords := records_workAt (Work.reconcile s (names.map f.resolver)) h
  unfold reconcileAt at taken
  rw [taken] at hrecords
  unfold workAt at taken
  rw [h] at taken
  cases taken
  exact ⟨rfl, Work.reconcile_sent s _ (f.work r), hrecords⟩

/-- A turn at a place beyond the records does nothing. -/
theorem reconcileAt_of_none {f g : Fleet} {place : Nat} {outcome : Except Fault Result}
    (h : f.records[place]? = none) (taken : f.reconcileAt s names place = (outcome, g)) : g = f := by
  have hsame := workAt_of_none (Work.reconcile s (names.map f.resolver)) h
  unfold reconcileAt at taken
  rw [taken] at hsame
  exact hsame

/-- Every place can have a turn. -/
theorem exists_turn (s : Setup) (names : Option Places) (f : Fleet) (place : Nat) :
    ∃ t : Turn, t.place = place ∧ t.outcome = (f.reconcileAt s names place).1 ∧
      Turns s names [t] f (f.reconcileAt s names place).2 := by
  rcases hg : f.reconcileAt s names place with ⟨outcome, g⟩
  cases hr : f.records[place]? with
  | none =>
    refine ⟨⟨place, outcome, []⟩, rfl, rfl, .cons hg ?_ (.nil g)⟩
    rw [reconcileAt_of_none hr hg, List.append_nil]
  | some r =>
    obtain ⟨-, hsent, -⟩ := reconcileAt_of_some hr hg
    exact ⟨⟨place, outcome, _⟩, rfl, rfl, .cons hg hsent (.nil g)⟩

/-! ## Several turns -/

theorem Turns.append {turns more : List Turn} {f g f' : Fleet} (h : Turns s names turns f g)
    (h' : Turns s names more g f') : Turns s names (turns ++ more) f f' := by
  induction h with
  | nil => exact h'
  | cons taken sent _ ih => exact .cons taken sent (ih h')

theorem Turns.of_append {turns more : List Turn} {f f' : Fleet}
    (h : Turns s names (turns ++ more) f f') :
    ∃ g, Turns s names turns f g ∧ Turns s names more g f' := by
  induction turns generalizing f with
  | nil => exact ⟨f, .nil f, h⟩
  | cons t rest ih =>
    cases h with
    | cons taken sent h' =>
      obtain ⟨g, hrest, hmore⟩ := ih h'
      exact ⟨g, .cons taken sent hrest, hmore⟩

theorem Turns.of_cons {t : Turn} {rest : List Turn} {f f' : Fleet}
    (h : Turns s names (t :: rest) f f') :
    ∃ g, Turns s names [t] f g ∧ Turns s names rest g f' := by
  cases h with
  | cons taken sent more => exact ⟨_, .cons taken sent (.nil _), more⟩

/-- A turn of a run stands between the turns before it and those after it. -/
theorem Turns.of_mem {turns : List Turn} {f f' : Fleet} (h : Turns s names turns f f') {t : Turn}
    (ht : t ∈ turns) : ∃ before after g g', turns = before ++ t :: after ∧
      Turns s names before f g ∧ Turns s names [t] g g' ∧ Turns s names after g' f' := by
  obtain ⟨before, after, rfl⟩ := List.append_of_mem ht
  obtain ⟨g, hbefore, hrest⟩ := h.of_append
  obtain ⟨g', hturn, hafter⟩ := hrest.of_cons
  exact ⟨before, after, g, g', rfl, hbefore, hturn, hafter⟩

/-- What a turn tells and sends, and what it leaves of its record, is what the reconcile of that does. -/
theorem Turns.of_some {t : Turn} {f g : Fleet} (h : Turns s names [t] f g) {r : Record}
    (hr : f.records[t.place]? = some r) :
    t.outcome = ((f.work r).reconcile s (names.map f.resolver)).1 ∧
      t.requests = (f.work r).requests s (names.map f.resolver) ∧
      g.records[t.place]? = some ((f.work r).reconcile s (names.map f.resolver)).2.record := by
  cases h with
  | cons taken sent more =>
    cases more
    obtain ⟨houtcome, hsent, hrecords⟩ := reconcileAt_of_some hr taken
    rw [hsent] at sent
    exact ⟨houtcome, (List.append_cancel_left sent).symm, by rw [hrecords, if_pos rfl]⟩

/-- A turn at a place beyond the records sends nothing. -/
theorem Turns.of_none {t : Turn} {f g : Fleet} (h : Turns s names [t] f g)
    (hr : f.records[t.place]? = none) : t.requests = [] := by
  cases h with
  | cons taken sent more =>
    cases more
    rw [reconcileAt_of_none hr taken] at sent
    exact List.self_eq_append_right.mp sent

/-- The requests of a run are those of its turns. -/
theorem Turns.sent {turns : List Turn} {f f' : Fleet} (h : Turns s names turns f f') :
    f'.wire.sent = f.wire.sent ++ turns.flatMap (·.requests) := by
  induction h with
  | nil => simp
  | cons _ sent _ ih => rw [ih, sent, List.flatMap_cons, List.append_assoc]

/-- A record that has no turn stays as it is. -/
theorem Turns.records_of_notMem {turns : List Turn} {f f' : Fleet} {place : Nat}
    (h : Turns s names turns f f') (hp : ∀ t ∈ turns, t.place ≠ place) :
    f'.records[place]? = f.records[place]? := by
  induction h with
  | nil => rfl
  | @cons t rest f g f' taken _ _ ih =>
    rw [ih fun u hu => hp u (List.mem_cons_of_mem t hu)]
    cases hr : f.records[t.place]? with
    | none => rw [reconcileAt_of_none hr taken]
    | some r =>
      obtain ⟨-, -, hrecords⟩ := reconcileAt_of_some hr taken
      rw [hrecords, if_neg (hp t List.mem_cons_self)]

/-- Turns keep what records are known by. -/
theorem Turns.card {turns : List Turn} {f f' : Fleet} (h : Turns s names turns f f') (place : Nat) :
    (f'.records[place]?).map Record.card = (f.records[place]?).map Record.card := by
  induction h with
  | nil => rfl
  | @cons t rest f g f' taken _ _ ih =>
    rw [ih]
    cases hr : f.records[t.place]? with
    | none => rw [reconcileAt_of_none hr taken]
    | some r =>
      obtain ⟨-, -, hrecords⟩ := reconcileAt_of_some hr taken
      rw [hrecords]
      by_cases hp : t.place = place
      · rw [if_pos hp, ← hp, hr]
        exact congrArg some (Work.card_reconcile s _ (f.work r))
      · rw [if_neg hp]

/-! ## A pass over several records -/

theorem gather_ok {outcomes : List (Except Fault Result)} {results : List Result}
    (h : gather outcomes = .ok results) : outcomes = results.map .ok := by
  induction outcomes generalizing results with
  | nil => cases h; rfl
  | cons outcome rest ih =>
    cases outcome with
    | error fault => cases h
    | ok result =>
      cases hr : gather rest with
      | error fault => simp only [gather, hr, Except.map] at h; cases h
      | ok more =>
        simp only [gather, hr, Except.map] at h
        cases h
        rw [ih hr, List.map_cons]

theorem gather_error {outcomes : List (Except Fault Result)} {fault : Fault}
    (h : gather outcomes = .error fault) : .error fault ∈ outcomes := by
  induction outcomes with
  | nil => cases h
  | cons outcome rest ih =>
    cases outcome with
    | error fault' => cases h; exact List.mem_cons_self
    | ok result =>
      cases hr : gather rest with
      | error fault' =>
        simp only [gather, hr, Except.map] at h
        cases h
        exact List.mem_cons_of_mem _ (ih hr)
      | ok more => simp only [gather, hr, Except.map] at h; cases h

theorem reconcileEach_turns (s : Setup) (names : Option Places) (places : Places) (f : Fleet) :
    ∃ turns, Turns s names turns f (reconcileEach s names places f).2 ∧
      turns.map (·.place) = places ∧
      turns.map (·.outcome) = (reconcileEach s names places f).1 := by
  induction places generalizing f with
  | nil => exact ⟨[], .nil f, rfl, rfl⟩
  | cons place rest ih =>
    obtain ⟨t, hplace, houtcome, ht⟩ := exists_turn s names f place
    obtain ⟨turns, hturns, hplaces, houtcomes⟩ := ih (f.reconcileAt s names place).2
    refine ⟨t :: turns, ht.append hturns, ?_, ?_⟩
    · rw [List.map_cons, hplace, hplaces]
    · rw [List.map_cons, houtcome, houtcomes]
      rfl

/-- How turns account for work that gave no results: one of them ended in the fault, or there is no slot for
any. -/
def Explains (s : Setup) (turns : List Turn) : Halt → Prop
  | .fault fault => ∃ t ∈ turns, t.outcome = .error fault
  | .stalled => s.maxConcurrent ≤ 0

theorem Explains.append {turns : List Turn} {halt : Halt} (h : Explains s turns halt) (before : List Turn) :
    Explains s (before ++ turns) halt := by
  cases halt with
  | stalled => exact h
  | fault fault =>
    obtain ⟨t, ht, hfault⟩ := h
    exact ⟨t, List.mem_append_right _ ht, hfault⟩

/-- **Reconciling several records is one turn of each.** Its results are those of the turns, unless one of
them ended in a fault; then the outcome is a fault of a turn. Without a slot there is no turn. -/
theorem reconcileAll_turns (s : Setup) (names : Option Places) (places : Places) (f : Fleet) :
    ∃ turns, Turns s names turns f (f.reconcileAll s names places).2 ∧
      (∀ t ∈ turns, t.place ∈ places) ∧
      match (f.reconcileAll s names places).1 with
      | .error halt => Explains s turns halt
      | .ok results => turns.map (·.place) = places ∧ turns.map (·.outcome) = results.map .ok := by
  obtain ⟨turns, hturns, hplaces, houtcomes⟩ :=
    reconcileEach_turns s names places f
  unfold reconcileAll
  by_cases slot : 0 < s.maxConcurrent ∨ places = []
  · rw [if_pos slot]
    refine ⟨turns, hturns, fun t ht => hplaces ▸ List.mem_map_of_mem ht, ?_⟩
    dsimp only
    cases hg : gather (reconcileEach s names places f).1 with
    | error fault =>
      rw [← houtcomes] at hg
      exact List.mem_map.mp (gather_error hg)
    | ok results => exact ⟨hplaces, houtcomes.trans (gather_ok hg)⟩
  · rw [if_neg slot]
    rw [not_or] at slot
    exact ⟨[], .nil f, List.forall_mem_nil _, Int.not_lt.mp slot.1⟩

end Fleet

end InfluxKeeper
