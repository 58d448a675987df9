import Mathlib.Data.List.Perm.Basic
import InfluxKeeper.Proofs.Fleet.Again
import InfluxKeeper.Proofs.Fleet.Discipline
import InfluxKeeper.Proofs.Reconcile.Undated

/-!
# Records of one kind are independent

A turn writes the record at its place, and reads the records of other kinds than that one. So turns of different
records of one kind do not meet: each finds its record as it was, and among records that are the same to it, in
whatever order the turns are taken. What is left to tell them apart are the answers to their requests.

> `reconcileAll_independent`: if every record meets its own answers, reconciling records of one kind in another
> order gives every record the same result, the same requests and the same end but for times.

`Served` says that records meet their own answers. On one wire these stand in the order of the turns, and for every
order there is such a wire (`exists_served`): a record has as many requests at its turn as it would have first.
-/

namespace InfluxKeeper

open Api

/-! ## Scripts -/

namespace Work

variable {s : Setup} {c : Client} {resolver : Option Resolver}

theorem script_mutate (m : Mutation) (w : Work) :
    (w.mutate c m).2.wire.script = w.wire.script := by
  rw [mutate_eq]
  split
  · exact script_call w _
  · exact script_call w _

theorem script_settle (seen : Seen) (w : Work) :
    (w.settle c seen).2.wire.script = w.wire.script := by
  unfold settle
  dsimp only
  split
  · rfl
  · next m _ =>
    have hscript := script_mutate (c := c) m (w.setConditions (readiness w.record.deleting seen))
    split <;> next hm => rw [hm] at hscript; exact hscript

/-- A reconcile leaves the answers that are still to come. -/
theorem script_reconcile (w : Work) : (w.reconcile s resolver).2.wire.script = w.wire.script := by
  by_cases hk : w.record.kind ∈ s.kinds
  · have hlooked : (w.looked s.client resolver).wire.script = w.wire.script := script_looked w
    unfold looked at hlooked
    rw [reconcile_of_handled hk]
    unfold pass
    split
    · next hl => rw [hl] at hlooked; exact hlooked
    · next hl => rw [hl] at hlooked; exact hlooked
    · next hl => rw [hl] at hlooked; rw [script_settle]; exact hlooked
  · rw [reconcile_of_unhandled hk]

end Work

namespace Fleet

variable {s : Setup} {names : Option Places}

theorem script_reconcileAt (s : Setup) (names : Option Places) (f : Fleet) (place : Nat) :
    (f.reconcileAt s names place).2.wire.script = f.wire.script := by
  unfold reconcileAt workAt
  split
  · rfl
  · exact Work.script_reconcile _

theorem Turns.script {turns : List Turn} {f f' : Fleet} (h : Turns s names turns f f') :
    f'.wire.script = f.wire.script := by
  induction h with
  | nil => rfl
  | @cons t rest f g f' taken _ _ ih =>
    have hscript := script_reconcileAt s names f t.place
    rw [taken] at hscript
    exact ih.trans hscript

/-! ## The turns of a run -/

/-- The turn of the record at a place. -/
def turn (s : Setup) (names : Option Places) (f : Fleet) (place : Nat) : Turn :=
  ⟨place, (f.reconcileAt s names place).1,
    (f.reconcileAt s names place).2.wire.sent.drop f.wire.sent.length⟩

/-- The turns of the records at places, one after the other. -/
def turnsOf (s : Setup) (names : Option Places) : Places → Fleet → List Turn
  | [], _ => []
  | place :: rest, f => f.turn s names place :: turnsOf s names rest (f.reconcileAt s names place).2

theorem turn_turns (s : Setup) (names : Option Places) (f : Fleet) (place : Nat) :
    Turns s names [f.turn s names place] f (f.reconcileAt s names place).2 := by
  refine .cons (g := (f.reconcileAt s names place).2) rfl ?_ (.nil _)
  -- what a turn sends comes after what was sent before
  obtain ⟨t, -, -, hturn⟩ := exists_turn s names f place
  have hsent := hturn.sent
  show _ = f.wire.sent ++ List.drop f.wire.sent.length (f.reconcileAt s names place).2.wire.sent
  rw [hsent, List.drop_left]

theorem turnsOf_turns (s : Setup) (names : Option Places) (places : Places) (f : Fleet) :
    Turns s names (turnsOf s names places f) f (reconcileEach s names places f).2 := by
  induction places generalizing f with
  | nil => exact .nil f
  | cons place rest ih => exact (turn_turns s names f place).append (ih (f.reconcileAt s names place).2)

@[simp] theorem places_turnsOf (s : Setup) (names : Option Places) (places : Places) (f : Fleet) :
    (turnsOf s names places f).map (·.place) = places := by
  induction places generalizing f with
  | nil => rfl
  | cons place rest ih => exact congrArg (place :: ·) (ih (f.reconcileAt s names place).2)

/-- With a slot, the results of a run are gathered from its turns. -/
theorem reconcileAll_of_slot (slot : 0 < s.maxConcurrent) (places : Places) (f : Fleet) :
    f.reconcileAll s names places =
      ((gather ((turnsOf s names places f).map (·.outcome))).mapError .fault,
        (reconcileEach s names places f).2) := by
  have houtcomes (f : Fleet) :
      (reconcileEach s names places f).1 = (turnsOf s names places f).map (·.outcome) := by
    induction places generalizing f with
    | nil => rfl
    | cons place rest ih =>
      exact congrArg ((f.reconcileAt s names place).1 :: ·) (ih (f.reconcileAt s names place).2)
  unfold reconcileAll
  rw [if_pos (Or.inl slot), ← houtcomes]

/-- Without one, a run has no results unless it has no records, and it leaves all as it was. -/
theorem reconcileAll_idle (none_free : s.maxConcurrent ≤ 0) (names : Option Places) (places : Places) (f : Fleet) :
    (f.reconcileAll s names places).2 = f ∧
      ∀ results, (f.reconcileAll s names places).1 = .ok results → places = [] ∧ results = [] := by
  by_cases some_place : places = []
  · rw [some_place, reconcileAll_nil]
    exact ⟨rfl, fun results h => by cases h; exact ⟨rfl, rfl⟩⟩
  · rw [reconcileAll_of_no_slot none_free names some_place]
    exact ⟨rfl, nofun⟩

/-! ## Own answers -/

/-- Turns whose requests meet the answers of their own records: the n-th request of a turn meets the n-th answer
of the record at its place. -/
def Served (own : Nat → Nat → Answer) (script : Nat → Exchange) : Nat → List Turn → Prop
  | _, [] => True
  | start, t :: rest =>
    (∀ n < t.requests.length, (script (start + n)).answer = own t.place n) ∧
      Served own script (start + t.requests.length) rest

instance Served.decidable (own : Nat → Nat → Answer) (script : Nat → Exchange) :
    (start : Nat) → (turns : List Turn) → Decidable (Served own script start turns)
  | _, [] => isTrue trivial
  | start, t :: rest =>
    have := Served.decidable own script (start + t.requests.length) rest
    inferInstanceAs (Decidable (_ ∧ _))

variable {own : Nat → Nat → Answer}

/-- A turn after others is served where they stopped. -/
theorem Served.of_append {script : Nat → Exchange} {start : Nat} {before after : List Turn} {t : Turn}
    (h : Served own script start (before ++ t :: after)) {n : Nat} (hn : n < t.requests.length) :
    (script (start + (before.flatMap (·.requests)).length + n)).answer = own t.place n := by
  induction before generalizing start with
  | nil => exact h.1 n hn
  | cons u rest ih =>
    rw [List.flatMap_cons, List.length_append, ← Nat.add_assoc]
    exact ih h.2

/-! ## A turn among others of its kind -/

/-- Turns of records of a kind leave the records of other kinds. -/
theorem Turns.sameOf_of_kinds {turns : List Turn} {f f' : Fleet} (h : Turns s names turns f f') {k : Kind}
    (kinds : ∀ t ∈ turns, f.kindAt? t.place = some k) {other : Kind}
    (ne : other ≠ k) : SameOf other f f' := by
  induction h with
  | nil => exact fun _ => rfl
  | @cons t rest f g f' taken sent more ih =>
    have hturn : Turns s names [t] f g := .cons taken sent (.nil g)
    obtain ⟨r, hr, hk⟩ := Option.map_eq_some_iff.mp (kinds t List.mem_cons_self)
    refine (hturn.sameOf hr (hk ▸ ne)).trans (ih fun u hu => ?_)
    rw [hturn.kindAt?]
    exact kinds u (List.mem_cons_of_mem t hu)

/-- A turn of a run over different records of a kind finds its record as that was, among records of other kinds
that are as they were, and meets the answers of its own record. -/
structure Alone (s : Setup) (names : Option Places) (own : Nat → Nat → Answer) (k : Kind) (f : Fleet) (t : Turn)
    (r : Record) (g f' : Fleet) : Prop where
  others : ∀ other, other ≠ k → SameOf other f g
  outcome : t.outcome = ((g.work r).reconcile s (names.map g.resolver)).1
  requests : t.requests = (g.work r).requests s (names.map g.resolver)
  served : ∀ n < t.requests.length, (g.work r).answer n = own t.place n
  left : f'.records[t.place]? = some ((g.work r).reconcile s (names.map g.resolver)).2.record

theorem Turns.alone {turns : List Turn} {f f' : Fleet} (h : Turns s names turns f f') {k : Kind}
    (kinds : ∀ t ∈ turns, f.kindAt? t.place = some k)
    (distinct : (turns.map (·.place)).Nodup) (served : Served own f.wire.script f.wire.sent.length turns)
    {t : Turn} (ht : t ∈ turns) {r : Record} (hr : f.records[t.place]? = some r) :
    ∃ g, Alone s names own k f t r g f' := by
  obtain ⟨before, after, g, g', rfl, hbefore, hturn, hafter⟩ := h.of_mem ht
  rw [List.map_append, List.map_cons, List.nodup_append, List.nodup_cons] at distinct
  obtain ⟨-, ⟨hlater, -⟩, hearlier⟩ := distinct
  have hg : g.records[t.place]? = some r := by
    rw [hbefore.records_of_notMem fun u hu => hearlier _ (List.mem_map_of_mem hu) _ List.mem_cons_self, hr]
  obtain ⟨houtcome, hrequests, hleft⟩ := hturn.of_some hg
  refine ⟨g, fun other ne => ?_, houtcome, hrequests, fun n hn => ?_, ?_⟩
  · exact hbefore.sameOf_of_kinds (fun u hu => kinds u (List.mem_append_left _ hu)) ne
  · have hanswer := served.of_append hn
    rw [← List.length_append, ← hbefore.sent, ← hbefore.script] at hanswer
    exact hanswer
  · rw [hafter.records_of_notMem fun u hu heq => hlater (List.mem_map.mpr ⟨u, hu, heq⟩), hleft]

/-- Turns of one record in two runs are the same, and leave the same record but for times. -/
theorem Alone.eq {k : Kind} {f f' g g' h h' : Fleet} {t t' : Turn} {r : Record}
    (alone : Alone s names own k f t r g h) (alone' : Alone s names own k f' t' r g' h')
    (same : f'.records = f.records) (hk : r.kind = k) (hplace : t'.place = t.place) :
    t' = t ∧ (h'.records[t.place]?).map Record.undated = (h.records[t.place]?).map Record.undated := by
  have hreads : r.ReadsAlike (names.map g.resolver) (names.map g'.resolver) := by
    refine readsAlike_of_sameOf (fun other ne => ?_) names
    have hsame : SameOf other f f' := fun place => by rw [same]
    exact ((alone.others other (hk ▸ ne)).symm.trans hsame).trans (alone'.others other (hk ▸ ne))
  obtain ⟨hrequests, houtcome, hrecord⟩ := Work.reconcile_undated (s := s) (w := g.work r)
    (v := g'.work r) rfl hreads fun n hn hn' => by
      rw [alone.served n (alone.requests ▸ hn), alone'.served n (alone'.requests ▸ hn'), hplace]
  refine ⟨?_, ?_⟩
  · obtain ⟨place, outcome, requests⟩ := t
    obtain ⟨place', outcome', requests'⟩ := t'
    rw [Turn.mk.injEq]
    exact ⟨hplace, (alone'.outcome.trans houtcome).trans alone.outcome.symm,
      (alone'.requests.trans hrequests).trans alone.requests.symm⟩
  · rw [alone.left, ← hplace, alone'.left]
    exact congrArg some hrecord

/-! ## A wire for every order -/

/-- A wire on which requests meet given answers. -/
def ownWire (now : Timestamp) (answers : Nat → Answer) : Wire := ⟨now, [], fun n => ⟨now, answers n⟩⟩

theorem answer_ownWire (r : Record) (now : Timestamp) (answers : Nat → Answer) (events : List Event) (n : Nat) :
    Work.answer ⟨r, ownWire now answers, events⟩ n = answers n := by
  unfold Work.answer ownWire
  dsimp only
  rw [List.length_nil, Nat.zero_add]

/-- The requests of the record at a place if it is the first to have a turn, and meets its own answers. -/
def ownRequests (s : Setup) (names : Option Places) (own : Nat → Nat → Answer) (f : Fleet) (place : Nat) :
    List Request :=
  match f.records[place]? with
  | none => []
  | some r => Work.requests s (names.map f.resolver) ⟨r, ownWire f.wire.now (own place), f.events⟩

/-- The answers of records in the order of their turns: to each as many as it has requests. -/
def inTurn (s : Setup) (names : Option Places) (own : Nat → Nat → Answer) (f : Fleet) : Places → Nat → Answer
  | [], _ => .timedOut
  | place :: rest, n =>
    if n < (f.ownRequests s names own place).length then own place n
    else inTurn s names own f rest (n - (f.ownRequests s names own place).length)

/-- A record makes its own requests at any turn at which it is as it was, among records of other kinds that are
as they were, if its answers come next. -/
theorem requests_turn {f g : Fleet} {place : Nat} {k : Kind} (hk : f.kindAt? place = some k)
    (same : g.records[place]? = f.records[place]?) (others : ∀ other, other ≠ k → SameOf other f g)
    (answered : ∀ n < (f.ownRequests s names own place).length,
      (g.wire.script (g.wire.sent.length + n)).answer = own place n) :
    (g.turn s names place).requests = f.ownRequests s names own place := by
  obtain ⟨r, hr, rfl⟩ := Option.map_eq_some_iff.mp hk
  obtain ⟨-, hrequests, -⟩ := (turn_turns s names g place).of_some (same.trans hr)
  unfold ownRequests at answered ⊢
  rw [hr] at answered ⊢
  dsimp only at answered ⊢
  rw [hrequests]
  refine (Work.reconcile_undated (w := ⟨r, ownWire f.wire.now (own place), f.events⟩) (v := g.work r) rfl
    (readsAlike_of_sameOf others names) fun n hn _ => ?_).1
  rw [answer_ownWire]
  exact answered n hn

theorem served_inTurn {f g : Fleet} {places : Places} {k : Kind} (distinct : places.Nodup)
    (kinds : ∀ place ∈ places, f.kindAt? place = some k)
    (same : ∀ place ∈ places, g.records[place]? = f.records[place]?)
    (others : ∀ other, other ≠ k → SameOf other f g)
    (answered : ∀ n, (g.wire.script (g.wire.sent.length + n)).answer = inTurn s names own f places n) :
    Served own g.wire.script g.wire.sent.length (turnsOf s names places g) := by
  induction places generalizing g with
  | nil => trivial
  | cons place rest ih =>
    obtain ⟨hnew, distinct⟩ := List.nodup_cons.mp distinct
    have hk := kinds place List.mem_cons_self
    have hplace := same place List.mem_cons_self
    have hown : ∀ n < (f.ownRequests s names own place).length,
        (g.wire.script (g.wire.sent.length + n)).answer = own place n := by
      intro n hn
      rw [answered, inTurn, if_pos hn]
    have hrequests := requests_turn hk hplace others hown
    have hturn := turn_turns s names g place
    have hsent : (g.reconcileAt s names place).2.wire.sent.length
        = g.wire.sent.length + (f.ownRequests s names own place).length := by
      rw [hturn.sent, List.flatMap_singleton, List.length_append, hrequests]
    refine ⟨fun n hn => hown n (hrequests ▸ hn), ?_⟩
    show Served own g.wire.script (g.wire.sent.length + (g.turn s names place).requests.length) _
    rw [hrequests, ← hsent, ← hturn.script]
    refine ih distinct (fun other hother => kinds other (List.mem_cons_of_mem place hother))
      (fun other hother => ?_) (fun other ne => ?_) fun n => ?_
    · have hne : place ≠ other := fun heq => hnew (heq ▸ hother)
      rw [hturn.records_of_notMem fun t ht => List.mem_singleton.mp ht ▸ hne]
      exact same other (List.mem_cons_of_mem place hother)
    · obtain ⟨r, hr, hkind⟩ := Option.map_eq_some_iff.mp hk
      exact (others other ne).trans (hturn.sameOf (hplace.trans hr) (hkind ▸ ne))
    · rw [hturn.script, hsent, Nat.add_assoc, answered, inTurn, if_neg (Nat.not_lt.mpr (Nat.le_add_right _ _)),
        Nat.add_sub_cancel_left]

/-- Whatever answers records of a kind are to meet, and in whatever order and at whatever times they have their
turns, there is a wire on which each meets its own. -/
theorem exists_served {f : Fleet} {places : Places} {k : Kind} (own : Nat → Nat → Answer)
    (times : Nat → Timestamp) (distinct : places.Nodup)
    (kinds : ∀ place ∈ places, f.kindAt? place = some k) :
    ∃ f' : Fleet, f'.records = f.records ∧ f'.events = f.events ∧ f'.wire.sent = f.wire.sent ∧
      (∀ n, (f'.wire.script n).time = times n) ∧
      Served own f'.wire.script f'.wire.sent.length (turnsOf s names places f') := by
  refine ⟨{ f with wire := { f.wire with
    script := fun n => ⟨times n, inTurn s names own f places (n - f.wire.sent.length)⟩ } }, rfl, rfl, rfl,
    fun _ => rfl, served_inTurn distinct kinds (fun _ _ => rfl) (fun _ _ _ => rfl) fun n => ?_⟩
  dsimp only
  rw [Nat.add_sub_cancel_left]

/-! ## Runs in two orders -/

/-- Outcomes that are all results are gathered. -/
theorem gather_of_ok (results : List Result) : gather (results.map .ok) = .ok results := by
  induction results with
  | nil => rfl
  | cons result rest ih => rw [List.map_cons, gather, ih]; rfl

/-- Turns in another order give the same results to the same places. -/
theorem results_of_perm {turns turns' : List Turn} (perm : turns'.Perm turns) {results : List Result}
    (h : gather (turns.map (·.outcome)) = .ok results) :
    ∃ results', gather (turns'.map (·.outcome)) = .ok results' ∧
      ((turns'.map (·.place)).zip results').Perm ((turns.map (·.place)).zip results) := by
  have hresults : turns.map (·.outcome) = results.map .ok := gather_ok h
  have hok : ∀ t ∈ turns', ∃ result, t.outcome = Except.ok result := by
    intro t ht
    have hmem : t.outcome ∈ results.map Except.ok :=
      hresults ▸ List.mem_map_of_mem (perm.mem_iff.mp ht)
    obtain ⟨result, -, hresult⟩ := List.mem_map.mp hmem
    exact ⟨result, hresult.symm⟩
  obtain ⟨results', hresults'⟩ : ∃ results' : List Result, turns'.map (·.outcome) = results'.map Except.ok := by
    clear perm
    induction turns' with
    | nil => exact ⟨[], rfl⟩
    | cons t rest ih =>
      obtain ⟨result, hresult⟩ := hok t List.mem_cons_self
      obtain ⟨more, hmore⟩ := ih fun u hu => hok u (List.mem_cons_of_mem t hu)
      exact ⟨result :: more, by rw [List.map_cons, List.map_cons, hresult, hmore]⟩
  refine ⟨results', by rw [hresults', gather_of_ok], ?_⟩
  -- with the outcomes for the results, both are read off the turns
  have htold (turns : List Turn) (results : List Result)
      (h : turns.map (·.outcome) = results.map Except.ok) :
      ((turns.map (·.place)).zip results).map (Prod.map id Except.ok)
        = turns.map fun t => (t.place, t.outcome) := by
    rw [← List.zip_map, ← h, List.map_id, List.zip_map']
  refine (List.map_perm_map_iff (f := Prod.map id (Except.ok (ε := Fault))) ?_).mp ?_
  · exact Function.Injective.prodMap Function.injective_id fun _ _ => Except.ok.inj
  · rw [htold turns' results' hresults', htold turns results hresults]
    exact perm.map _

section TwoOrders

variable {turns turns' : List Turn} {f f' g g' : Fleet} {k : Kind}
  (h : Turns s names turns f g) (h' : Turns s names turns' f' g') (same : f'.records = f.records)
  (order : (turns'.map (·.place)).Perm (turns.map (·.place))) (distinct : (turns.map (·.place)).Nodup)
  (kinds : ∀ t ∈ turns, f.kindAt? t.place = some k)
  (served : Served own f.wire.script f.wire.sent.length turns)
  (served' : Served own f'.wire.script f'.wire.sent.length turns')

include h h' same order distinct kinds served served'

/-- A record has one and the same turn in both orders. -/
theorem Turns.eq_of_place {t t' : Turn} (ht : t ∈ turns) (ht' : t' ∈ turns') (hplace : t'.place = t.place) :
    t' = t ∧ (g'.records[t.place]?).map Record.undated = (g.records[t.place]?).map Record.undated := by
  obtain ⟨r, hr, hk⟩ := Option.map_eq_some_iff.mp (kinds t ht)
  have kinds' : ∀ u ∈ turns', f'.kindAt? u.place = some k := by
    intro u hu
    obtain ⟨v, hv, hsame⟩ := List.mem_map.mp (order.mem_iff.mp (List.mem_map_of_mem hu))
    unfold Fleet.kindAt?
    rw [same, ← hsame]
    exact kinds v hv
  obtain ⟨m, alone⟩ := h.alone kinds distinct served ht hr
  obtain ⟨m', alone'⟩ := h'.alone kinds' (order.nodup_iff.mpr distinct) served' ht'
    (r := r) (by rw [same, hplace, hr])
  exact alone.eq alone' same hk hplace

theorem Turns.perm : turns'.Perm turns := by
  have hsame {t t' : Turn} (ht : t ∈ turns) (ht' : t' ∈ turns') (hplace : t'.place = t.place) : t' = t :=
    (Turns.eq_of_place h h' same order distinct kinds served served' ht ht' hplace).1
  have hturns : turns.Nodup := List.Nodup.of_map _ distinct
  have hturns' : turns'.Nodup := List.Nodup.of_map _ (order.nodup_iff.mpr distinct)
  refine (List.perm_ext_iff_of_nodup hturns' hturns).mpr fun t => ⟨fun ht => ?_, fun ht => ?_⟩
  · obtain ⟨u, hu, hplace⟩ := List.mem_map.mp (order.mem_iff.mp (List.mem_map_of_mem ht))
    exact hsame hu ht hplace.symm ▸ hu
  · obtain ⟨u, hu, hplace⟩ := List.mem_map.mp (order.mem_iff.mpr (List.mem_map_of_mem ht))
    exact hsame ht hu hplace ▸ hu

/-- Both orders leave the same records, but for times. -/
theorem Turns.undated : g'.records.map Record.undated = g.records.map Record.undated := by
  refine List.ext_getElem? fun place => ?_
  rw [List.getElem?_map, List.getElem?_map]
  by_cases hplace : place ∈ turns.map (·.place)
  · obtain ⟨t, ht, rfl⟩ := List.mem_map.mp hplace
    obtain ⟨t', ht', hsame⟩ := List.mem_map.mp (order.mem_iff.mpr hplace)
    exact (Turns.eq_of_place h h' same order distinct kinds served served' ht ht' hsame).2
  · rw [h.records_of_notMem fun t ht heq => hplace (List.mem_map.mpr ⟨t, ht, heq⟩),
      h'.records_of_notMem fun t ht heq => hplace (order.mem_iff.mp (List.mem_map.mpr ⟨t, ht, heq⟩)), same]

end TwoOrders

/-- **Records of one kind are independent.** If records of one kind are reconciled in two orders, and each meets
its own answers in both, then each has the same turn in both: the same result, or fault, and the same requests
in the same order. It ends the same but for times, and all other records stay as they are. Without a slot no record
has its turn in either order, and all stay as they are. -/
theorem reconcileAll_independent {f f' : Fleet} {places places' : Places} {k : Kind}
    (same : f'.records = f.records) (order : places'.Perm places) (distinct : places.Nodup)
    (kinds : ∀ place ∈ places, f.kindAt? place = some k)
    (served : Served own f.wire.script f.wire.sent.length (turnsOf s names places f))
    (served' : Served own f'.wire.script f'.wire.sent.length (turnsOf s names places' f')) :
    (turnsOf s names places' f').Perm (turnsOf s names places f) ∧
      (f'.reconcileAll s names places').2.records.map Record.undated
        = (f.reconcileAll s names places).2.records.map Record.undated ∧
      (∀ place ∉ places, (f.reconcileAll s names places).2.records[place]? = f.records[place]? ∧
        (f'.reconcileAll s names places').2.records[place]? = f.records[place]?) ∧
      ∀ results, (f.reconcileAll s names places).1 = .ok results →
        ∃ results', (f'.reconcileAll s names places').1 = .ok results' ∧
          (places'.zip results').Perm (places.zip results) := by
  have hturns := turnsOf_turns s names places f
  have hturns' := turnsOf_turns s names places' f'
  have hplaces := places_turnsOf s names places f
  have hplaces' := places_turnsOf s names places' f'
  have hmem {place : Nat} : (∃ t ∈ turnsOf s names places f, t.place = place) ↔ place ∈ places := by
    rw [← List.mem_map, hplaces]
  have hmem' {place : Nat} : (∃ t ∈ turnsOf s names places' f', t.place = place) ↔ place ∈ places := by
    rw [← List.mem_map, hplaces', order.mem_iff]
  rw [← hplaces, ← hplaces'] at order
  rw [← hplaces] at distinct
  have kindsOf : ∀ t ∈ turnsOf s names places f, f.kindAt? t.place = some k :=
    fun t ht => kinds t.place (hmem.mp ⟨t, ht, rfl⟩)
  have hperm := Turns.perm hturns hturns' same order distinct kindsOf served served'
  refine ⟨hperm, ?_⟩
  by_cases slot : 0 < s.maxConcurrent
  · rw [reconcileAll_of_slot slot, reconcileAll_of_slot slot]
    refine ⟨Turns.undated hturns hturns' same order distinct kindsOf served served',
      fun place hnot => ⟨?_, ?_⟩, fun results hresults => ?_⟩
    · exact hturns.records_of_notMem fun t ht heq => hnot (hmem.mp ⟨t, ht, heq⟩)
    · rw [← same]
      exact hturns'.records_of_notMem fun t ht heq => hnot (hmem'.mp ⟨t, ht, heq⟩)
    · obtain ⟨results', hresults', hzip⟩ := results_of_perm hperm (mapError_ok_iff.mp hresults)
      rw [hplaces, hplaces'] at hzip
      exact ⟨results', mapError_ok_iff.mpr hresults', hzip⟩
  · -- without a slot nothing is done in either order
    obtain ⟨hidle, hnone⟩ := reconcileAll_idle (Int.not_lt.mp slot) names places f
    obtain ⟨hidle', -⟩ := reconcileAll_idle (Int.not_lt.mp slot) names places' f'
    rw [hidle, hidle', same]
    refine ⟨rfl, fun _ _ => ⟨rfl, rfl⟩, fun results hresults => ?_⟩
    obtain ⟨rfl, rfl⟩ := hnone results hresults
    rw [hplaces, hplaces'] at order
    rw [order.eq_nil, reconcileAll_nil]
    exact ⟨[], rfl, .refl _⟩

/-- A second bucket, of the organization that the first one selects. -/
def twoBuckets : List Record :=
  selecting ++ [Record.ofName "logs" (.bucket { Bucket.Parameters.empty with orgIDRef := some ⟨"acme"⟩ } .empty)]

/-- The first bucket is absent and is created, the second one is found. -/
def bucketAnswers : Nat → Nat → Answer
  | 1, 0 => .ofValue (.object [("buckets", .list [])])
  | 1, 1 => .response 201 ""
  | 2, 0 => .ofValue (.object [("buckets", .list [.object [("id", .text "b2"), ("orgID", .text "o1"),
      ("name", .text "logs")]])])
  | _, _ => .timedOut

/-- The fleet of both buckets, with the answers in the order of a list. -/
def twoBucketsFleet (order : List (Nat × Nat)) : Fleet :=
  ⟨twoBuckets, .ofAnswers (order.map fun e => bucketAnswers e.1 e.2), []⟩

/-- The buckets, in one order and in the other. -/
theorem reconcileAll_independent_buckets :
    let s := Setup.ofClient ⟨"http://db", "", 30⟩
    let f := twoBucketsFleet [(1, 0), (1, 1), (2, 0)]
    let f' := twoBucketsFleet [(2, 0), (1, 0), (1, 1)]
    let names : Option Places := some [0, 1, 2]
    let events : Result := ⟨.bucket, "events", true, .done .create, "", false⟩
    let logs : Result := ⟨.bucket, "logs", true, .nothing, "", false⟩
    (f.reconcileAll s names [1, 2]).1 = .ok [events, logs] ∧
      (f'.reconcileAll s names [2, 1]).1 = .ok [logs, events] ∧
      (turnsOf s names [2, 1] f').Perm (turnsOf s names [1, 2] f) ∧
      (f'.reconcileAll s names [2, 1]).2.records.map Record.undated
        = (f.reconcileAll s names [1, 2]).2.records.map Record.undated ∧
      (f.reconcileAll s names [1, 2]).2.records[0]? = twoBuckets[0]? ∧
      (f'.reconcileAll s names [2, 1]).2.records[0]? = twoBuckets[0]? := by
  intro s f f' names events logs
  have same : f'.records = f.records := rfl
  have kinds : ∀ place ∈ [1, 2], f.kindAt? place = some .bucket := by decide +kernel
  have served : Served bucketAnswers f.wire.script f.wire.sent.length (turnsOf s names [1, 2] f) := by
    decide +kernel
  have served' : Served bucketAnswers f'.wire.script f'.wire.sent.length (turnsOf s names [2, 1] f') := by
    decide +kernel
  obtain ⟨hperm, hrecords, hothers, -⟩ :=
    reconcileAll_independent same (List.Perm.swap 1 2 []) (by decide) kinds served served'
  obtain ⟨hleft, hleft'⟩ := hothers 0 (by decide)
  exact ⟨by decide +kernel, by decide +kernel, hperm, hrecords, hleft, hleft'⟩

end Fleet

end InfluxKeeper
