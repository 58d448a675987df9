import Mathlib.Data.List.Nodup
import InfluxKeeper.Proofs.Fleet.Discipline
import InfluxKeeper.Proofs.Reconcile.Telling

/-!
# Looking at many records

A survey looks at records kind by kind. A `Glance` is one look in the course of it: at which record, what came of
it, and what it sent. What a glance sends, but for its query, is told by the record as it was before the survey
(`Record.asks`), and so is which glances there are and in which order (`surveyed`). A lookup that fails is told
by its message and changes nothing of that; only what is no such failure ends a survey before all is seen.

> `exists_survey`: looking at records is a survey of them, and what is told of a record is what came of the
> glance at it.

The glances are in the order of kinds and what they tell is in the order of the records, so what is told is kept
under the numbers of the records (`Told`).
-/

namespace InfluxKeeper

open Api

/-! ## One look -/

/-- What the lookup of a record asks: nothing if it is a mapping without an external name. -/
def Record.asks (c : Client) (r : Record) : List (String × String) :=
  if r.kind.foundByName || r.externalName.truthy then [("GET", c.base ++ r.kind.path)] else []

namespace Record

variable {c : Client}

theorem asks_congr {r r' : Record} (hk : r'.kind = r.kind)
    (hm : r.kind.foundByName = false → r'.externalName = r.externalName) : r'.asks c = r.asks c := by
  unfold asks
  rw [hk]
  cases hf : r.kind.foundByName with
  | true => rfl
  | false => rw [hm hf]

/-- Its lookup is the request that a record has. -/
theorem asks_eq (c : Client) (r : Record) :
    (r.lookupRequest? c).toList.map (fun q => (q.method, q.url)) = r.asks c := by
  unfold lookupRequest? asks kind
  cases r.resource with
  | organization p o => rfl
  | bucket p o => rfl
  | mapping p o =>
    dsimp only
    by_cases ht : r.externalName.truthy = true
    · rw [if_pos ht, if_pos (by rw [ht, Bool.or_true])]
      rfl
    · rw [if_neg ht, if_neg (by rwa [show (Resource.mapping p o).kind.foundByName = false from rfl,
        Bool.false_or])]
      rfl

end Record

namespace Work

variable {s : Setup} {resolver : Option Resolver}

theorem asks_of_metadata {w : Work} {r : Record} (c : Client) (hk : r.kind = w.record.kind)
    (hm : r.metadata = w.record.nameByDefault.metadata) : r.asks c = w.record.asks c := by
  refine Record.asks_congr hk fun hf => ?_
  rw [show r.externalName = w.record.nameByDefault.externalName from congrArg Metadata.externalName hm,
    Record.externalName_nameByDefault, hf]
  rfl

/-- The requests of an observation: the lookup of the prepared record. -/
def inquiry (s : Setup) (resolver : Option Resolver) (w : Work) : List Request :=
  if w.record.kind ∈ s.kinds then ((w.prepare resolver).record.lookupRequest? s.client).toList else []

theorem observe_of_handled {w : Work} (hk : w.record.kind ∈ s.kinds) :
    w.observe s resolver = (w.prepare resolver).look s.client :=
  if_neg (not_not_intro hk)

theorem observe_of_unhandled {w : Work} (hk : w.record.kind ∉ s.kinds) :
    w.observe s resolver = (.error (.escaped (unhandled w.record.kind)), w) :=
  if_pos hk

theorem observe_sent (s : Setup) (resolver : Option Resolver) (w : Work) :
    (w.observe s resolver).2.wire.sent = w.wire.sent ++ w.inquiry s resolver := by
  unfold inquiry
  by_cases hk : w.record.kind ∈ s.kinds
  · rw [observe_of_handled hk, if_pos hk]
    exact sent_look (w.prepare_named resolver)
  · rw [observe_of_unhandled hk, if_neg hk, List.append_nil]

/-- What an observation sends is what the record asks. -/
theorem inquiry_asks (s : Setup) (resolver : Option Resolver) (w : Work) :
    (w.inquiry s resolver).map (fun q => (q.method, q.url))
      = if w.record.kind ∈ s.kinds then w.record.asks s.client else [] := by
  unfold inquiry
  split
  · rw [Record.asks_eq]
    exact asks_of_metadata s.client (w.kind_prepare resolver) (w.metadata_prepare resolver)
  · rfl

/-- An observation keeps the kind of a record, and what it asks. -/
theorem observe_keeps (s : Setup) (resolver : Option Resolver) (w : Work) :
    (w.observe s resolver).2.record.kind = w.record.kind ∧
      ∀ c, (w.observe s resolver).2.record.asks c = w.record.asks c := by
  by_cases hk : w.record.kind ∈ s.kinds
  · rw [observe_of_handled hk]
    have hkind : ((w.prepare resolver).look s.client).2.record.kind = w.record.kind :=
      (kind_look _ _).trans (w.kind_prepare resolver)
    exact ⟨hkind, fun c => asks_of_metadata c hkind ((metadata_look _ _).trans (w.metadata_prepare resolver))⟩
  · rw [observe_of_unhandled hk]
    exact ⟨rfl, fun _ => rfl⟩

/-- A lookup that failed tells why. -/
theorem observe_trouble {w : Work} {t : Trouble} (h : (w.observe s resolver).1 = .error (.reported t)) :
    t.message ≠ "" := by
  by_cases hk : w.record.kind ∈ s.kinds
  · rw [observe_of_handled hk, look_eq] at h
    split at h
    · next failure hf =>
      cases h
      obtain ⟨fault, hmessage⟩ := trouble_of_finding hf
      rw [hmessage]
      exact message_ne_empty _ _
    · cases h
    · obtain ⟨_, _, hescaped⟩ := mapError_error_iff.mp h
      cases hescaped
  · rw [observe_of_unhandled hk] at h
    cases h

end Work

/-! ## Glances -/

/-- A look at a record in the course of a survey: the number and the place of the record, what came of the look,
and what it sent. -/
structure Glance where
  number : Nat
  place : Nat
  outcome : Except Failure Seen
  requests : List Request

namespace Fleet

variable {s : Setup} {names : Places}

/-- Glances that lead from one fleet to another: each is an observation of the record at its place, with
references resolved among the records at given places. -/
inductive Glances (s : Setup) (names : Places) : List Glance → Fleet → Fleet → Prop
  | nil (f : Fleet) : Glances s names [] f f
  | cons {g : Glance} {rest : List Glance} {f f' : Fleet} {r : Record} {w : Work}
      (record : f.records[g.place]? = some r)
      (taken : (f.work r).observe s (some (f.resolver names)) = (g.outcome, w))
      (sent : w.wire.sent = f.wire.sent ++ g.requests)
      (more : Glances s names rest ⟨f.records.set g.place w.record, w.wire, w.events⟩ f') :
      Glances s names (g :: rest) f f'

theorem Glances.sent {gs : List Glance} {f f' : Fleet} (h : Glances s names gs f f') :
    f'.wire.sent = f.wire.sent ++ gs.flatMap (·.requests) := by
  induction h with
  | nil => simp
  | cons _ _ sent _ ih => rw [ih, List.flatMap_cons, ← List.append_assoc, ← sent]

/-- A failure at a glance tells why. -/
theorem Glances.trouble {gs : List Glance} {f f' : Fleet} (h : Glances s names gs f f') {g : Glance}
    (hg : g ∈ gs) {t : Trouble} (ht : g.outcome = .error (.reported t)) : t.message ≠ "" := by
  induction h with
  | nil => cases hg
  | @cons u rest f f' r w _ taken _ _ ih =>
    rcases List.mem_cons.mp hg with rfl | hg
    · exact Work.observe_trouble (by rw [taken, ht])
    · exact ih hg

/-- What the record at a place asks when it is looked at. -/
def asksAt (s : Setup) (records : List Record) (place : Nat) : List (String × String) :=
  match records[place]? with
  | none => []
  | some r => if r.kind ∈ s.kinds then r.asks s.client else []

/-- A glance at a record leaves what the records ask. -/
theorem asksAt_set {f : Fleet} {place : Nat} {r : Record} {w : Work} {outcome : Except Failure Seen}
    {resolver : Option Resolver} (hr : f.records[place]? = some r)
    (taken : (f.work r).observe s resolver = (outcome, w)) (other : Nat) :
    asksAt s (f.records.set place w.record) other = asksAt s f.records other := by
  have hkeeps := (f.work r).observe_keeps s resolver
  rw [taken] at hkeeps
  obtain ⟨hkind, hasks⟩ := hkeeps
  unfold asksAt
  by_cases hp : place = other
  · subst hp
    obtain ⟨hlt, -⟩ := List.getElem?_eq_some_iff.mp hr
    rw [List.getElem?_set_self hlt, hr]
    dsimp only
    rw [hkind, hasks]
    rfl
  · rw [List.getElem?_set_ne hp]

/-- What a glance sends is what its record asked before all glances. -/
theorem Glances.asks {gs : List Glance} {f f' : Fleet} (h : Glances s names gs f f') {g : Glance}
    (hg : g ∈ gs) : g.requests.map (fun q => (q.method, q.url)) = asksAt s f.records g.place := by
  induction h with
  | nil => cases hg
  | @cons u rest f f' r w record taken sent _ ih =>
    rcases List.mem_cons.mp hg with rfl | hg
    · have hsent := Work.observe_sent s (some (f.resolver names)) (f.work r)
      rw [taken, sent] at hsent
      rw [List.append_cancel_left hsent, Work.inquiry_asks]
      unfold asksAt
      rw [record]
      rfl
    · rw [ih hg, asksAt_set record taken]

/-! ## The loop -/

/-- What glances tell, under the numbers of their records. -/
def Told (gs : List Glance) (told : List (Nat × Sight)) : Prop :=
  List.Forall₂ (fun g e => e.1 = g.number ∧ sightOf g.outcome = .ok e.2) gs told

/-- Looking at a record, and at the rest unless that ends in a fault. -/
theorem look_cons {f : Fleet} {number place : Nat} {r : Record} {w : Work} {outcome : Except Failure Seen}
    (hr : f.records[place]? = some r)
    (taken : (f.work r).observe s (some (f.resolver names)) = (outcome, w)) (rest : List (Nat × Nat))
    (sights : List (Nat × Sight)) :
    look s names ((number, place) :: rest) sights f =
      match sightOf outcome with
      | .error fault => (.error fault, ⟨f.records.set place w.record, w.wire, w.events⟩)
      | .ok sight =>
        look s names rest (sights ++ [(number, sight)]) ⟨f.records.set place w.record, w.wire, w.events⟩ := by
  unfold work at taken
  rw [look]
  unfold workAt
  rw [hr]
  dsimp only
  rw [taken]
  cases sightOf outcome <;> rfl

/-- What is not told is a fault that is no failure of a lookup. -/
theorem sightOf_error {outcome : Except Failure Seen} {fault : Fault} (h : sightOf outcome = .error fault) :
    outcome = .error (.escaped fault) := by
  unfold sightOf at h
  split at h
  · cases h
  · cases h
  · cases h; rfl

/-- Looking at numbered records makes glances at them in their order, at all of them unless one ends in a
fault. -/
theorem look_glances (s : Setup) (names : Places) (numbered : List (Nat × Nat)) (sights : List (Nat × Sight))
    {f : Fleet} (within : ∀ e ∈ numbered, e.2 < f.records.length) :
    ∃ gs, Glances s names gs f (look s names numbered sights f).2 ∧
      gs.map (fun g => (g.number, g.place)) <+: numbered ∧
      match (look s names numbered sights f).1 with
      | .error fault => ∃ g, gs.getLast? = some g ∧ g.outcome = .error (.escaped fault)
      | .ok all => gs.map (fun g => (g.number, g.place)) = numbered ∧
          ∃ told, all = sights ++ told ∧ Told gs told := by
  induction numbered generalizing sights f with
  | nil => exact ⟨[], .nil f, List.prefix_rfl, rfl, [], (List.append_nil sights).symm, .nil⟩
  | cons e rest ih =>
    obtain ⟨number, place⟩ := e
    have hlt : place < f.records.length := within _ List.mem_cons_self
    have hr : f.records[place]? = some f.records[place] := List.getElem?_eq_getElem hlt
    rcases taken : (f.work f.records[place]).observe s (some (f.resolver names)) with ⟨outcome, w⟩
    have hsent := Work.observe_sent s (some (f.resolver names)) (f.work f.records[place])
    rw [taken] at hsent
    rw [look_cons hr taken]
    cases hsight : sightOf outcome with
    | error fault =>
      refine ⟨[⟨number, place, outcome, _⟩], .cons hr taken hsent (.nil _), ?_, _, rfl, sightOf_error hsight⟩
      exact List.prefix_append [(number, place)] rest
    | ok sight =>
      have hwithin : ∀ e ∈ rest, e.2 < (f.records.set place w.record).length := fun e he => by
        rw [List.length_set]
        exact within e (List.mem_cons_of_mem _ he)
      obtain ⟨gs, hgs, hfirst, hmore⟩ := ih (f := ⟨f.records.set place w.record, w.wire, w.events⟩)
        (sights ++ [(number, sight)]) hwithin
      refine ⟨⟨number, place, outcome, _⟩ :: gs, .cons hr taken hsent hgs, ?_, ?_⟩
      · exact List.cons_prefix_cons.mpr ⟨rfl, hfirst⟩
      · dsimp only
        split at hmore
        · next fault hlook =>
          rw [hlook]
          obtain ⟨g, hlast, hfault⟩ := hmore
          exact ⟨g, by rw [List.getLast?_cons, hlast]; rfl, hfault⟩
        · next all hlook =>
          rw [hlook]
          obtain ⟨hall, told, rfl, htold⟩ := hmore
          refine ⟨congrArg ((number, place) :: ·) hall, (number, sight) :: told, ?_, .cons ⟨rfl, hsight⟩ htold⟩
          rw [List.append_assoc]
          rfl

/-! ## The order -/

/-- The order of a survey: kind by kind, and within a kind by number. -/
def surveyed (records : List Record) (places : Places) : List (Nat × Nat) :=
  Kind.all.flatMap fun kind => (numbered places).filter fun e => (records[e.2]?).any (·.kind = kind)

/-- The lookups of a survey: what is asked for every number, in the order of the survey. -/
def lookups (s : Setup) (records : List Record) (places : Places) : List (Nat × List (String × String)) :=
  (surveyed records places).map fun e => (e.1, asksAt s records e.2)

/-- When in the order of kinds the record at a place comes. -/
def turnOf (f : Fleet) (place : Nat) : Nat := f.phase (Kind.all.map Kind.name) place

theorem mem_surveyed {f : Fleet} {places : Places} {e : Nat × Nat} :
    e ∈ surveyed f.records places ↔ e ∈ numbered places ∧ (f.kindAt? e.2).isSome := by
  unfold surveyed kindAt?
  rw [List.mem_flatMap]
  constructor
  · rintro ⟨kind, -, he⟩
    obtain ⟨hmem, hkind⟩ := List.mem_filter.mp he
    refine ⟨hmem, ?_⟩
    cases hr : f.records[e.2]? with
    | none => rw [hr] at hkind; cases hkind
    | some r => rfl
  · rintro ⟨hmem, hsome⟩
    cases hr : f.records[e.2]? with
    | none => rw [hr] at hsome; cases hsome
    | some r =>
      refine ⟨r.kind, by cases r.kind <;> decide, List.mem_filter.mpr ⟨hmem, ?_⟩⟩
      simp [hr]

theorem turnOf_of_kind {f : Fleet} {kind : Kind} {place : Nat}
    (h : (f.records[place]?).any (·.kind = kind) = true) :
    f.turnOf place = (Kind.all.map Kind.name).idxOf kind.name := by
  unfold turnOf phase kindAt?
  cases hr : f.records[place]? with
  | none => rw [hr] at h; cases h
  | some r =>
    rw [hr] at h
    rw [Option.map_some, show r.kind = kind by simpa using h, Option.elim_some]

theorem pairwise_surveyed (f : Fleet) (places : Places) :
    (surveyed f.records places).Pairwise fun a b =>
      f.turnOf a.2 < f.turnOf b.2 ∨ f.turnOf a.2 = f.turnOf b.2 ∧ a.1 < b.1 := by
  have hturn {kind : Kind} {e : Nat × Nat}
      (he : e ∈ (numbered places).filter fun e => (f.records[e.2]?).any (·.kind = kind)) :
      f.turnOf e.2 = (Kind.all.map Kind.name).idxOf kind.name :=
    turnOf_of_kind (List.mem_filter.mp he).2
  refine List.pairwise_flatMap.mpr ⟨fun kind _ => ?_, ?_⟩
  · refine ((pairwise_numbered places).filter _).imp_of_mem fun ha hb hlt => Or.inr ⟨?_, hlt⟩
    rw [hturn ha, hturn hb]
  · have hkinds : Kind.all.Pairwise fun a b =>
        (Kind.all.map Kind.name).idxOf a.name < (Kind.all.map Kind.name).idxOf b.name := by decide
    refine hkinds.imp fun hlt a ha b hb => Or.inl ?_
    rw [hturn ha, hturn hb]
    exact hlt

/-- A survey comes to every number once. -/
theorem nodup_surveyed (f : Fleet) (places : Places) :
    ((surveyed f.records places).map (·.1)).Nodup := by
  refine List.pairwise_map.mpr ((pairwise_surveyed f places).imp_of_mem fun {a b} ha hb horder heq => ?_)
  have ha' := mem_numbered.mp (mem_surveyed.mp ha).1
  have hb' := mem_numbered.mp (mem_surveyed.mp hb).1
  have hplace : a.2 = b.2 := Option.some.inj (ha'.symm.trans (heq ▸ hb'))
  rw [hplace] at horder
  omega

/-! ## What is told -/

end Fleet

namespace Glance

/-- A lookup that failed, in a way that is told. -/
def Failed (g : Glance) : Prop := ∃ t, g.outcome = .error (.reported t)

/-- What is told of a glance: what was seen, or why nothing was. -/
def Tells (g : Glance) (sight : Fleet.Sight) : Prop :=
  match g.outcome with
  | .ok seen => sight = ⟨seen.present, seen.upToDate, ""⟩
  | .error (.reported t) => sight = ⟨false, false, t.message⟩ ∧ t.message ≠ ""
  | .error (.escaped _) => False

theorem tells_of_sight {g : Glance} {sight : Fleet.Sight} (h : Fleet.sightOf g.outcome = .ok sight)
    (trouble : ∀ t, g.outcome = .error (.reported t) → t.message ≠ "") : g.Tells sight := by
  unfold Tells
  cases ho : g.outcome with
  | ok seen => rw [ho] at h; cases h; rfl
  | error failure =>
    cases failure with
    | reported t => rw [ho] at h; cases h; exact ⟨rfl, trouble t ho⟩
    | escaped fault => rw [ho] at h; cases h

/-- A message is told of a glance exactly if it failed. -/
theorem message_eq_empty_iff {g : Glance} {sight : Fleet.Sight} (h : g.Tells sight) :
    sight.message = "" ↔ ¬g.Failed := by
  unfold Tells at h
  unfold Failed
  split at h
  · next seen ho => rw [ho, h]; simp
  · next t ho => rw [ho, h.1]; simp [h.2]
  · cases h

end Glance

namespace Fleet

variable {s : Setup}

theorem Told.exists_sight {gs : List Glance} {told : List (Nat × Sight)} (h : Told gs told) {g : Glance}
    (hg : g ∈ gs) : ∃ sight, (g.number, sight) ∈ told ∧ sightOf g.outcome = .ok sight := by
  induction h with
  | nil => cases hg
  | @cons u e rest told htold _ ih =>
    rcases List.mem_cons.mp hg with rfl | hg
    · obtain ⟨hnumber, hsight⟩ := htold
      exact ⟨e.2, by rw [← hnumber]; exact List.mem_cons_self, hsight⟩
    · obtain ⟨sight, hmem, hsight⟩ := ih hg
      exact ⟨sight, List.mem_cons_of_mem _ hmem, hsight⟩

theorem Told.numbers {gs : List Glance} {told : List (Nat × Sight)} (h : Told gs told) :
    told.map (·.1) = gs.map (·.number) := by
  induction h with
  | nil => rfl
  | cons htold _ ih => rw [List.map_cons, List.map_cons, htold.1, ih]

/-- Under different numbers, what was kept is found. -/
theorem lookup_of_mem {told : List (Nat × Sight)} (distinct : (told.map (·.1)).Nodup) {number : Nat}
    {sight : Sight} (h : (number, sight) ∈ told) : told.lookup number = some sight := by
  induction told with
  | nil => cases h
  | cons e rest ih =>
    rw [List.map_cons, List.nodup_cons] at distinct
    rcases List.mem_cons.mp h with rfl | h
    · exact List.lookup_cons_self
    · have hne : number ≠ e.1 := fun heq => distinct.1 (heq ▸ List.mem_map_of_mem h)
      rw [List.lookup_cons, beq_false_of_ne hne]
      exact ih distinct.2 h

/-- What is kept under the number of a record is what came of the glance at it. -/
theorem tells_of_told {f f' : Fleet} {places : Places} {gs : List Glance} {told : List (Nat × Sight)}
    (within : ∀ place ∈ places, place < f.records.length) (glances : Glances s places gs f f')
    (all : gs.map (fun g => (g.number, g.place)) = surveyed f.records places) (htold : Told gs told)
    {number place : Nat} (hplace : places[number]? = some place) :
    ∃ g ∈ gs, g.number = number ∧ g.Tells ((told.lookup number).getD ⟨false, false, ""⟩) := by
  have hkind : (f.kindAt? place).isSome := by
    unfold kindAt?
    rw [List.getElem?_eq_getElem (within place (List.mem_of_getElem? hplace))]
    rfl
  have hmem := mem_surveyed.mpr ⟨mem_numbered.mpr hplace, hkind⟩
  rw [← all] at hmem
  obtain ⟨g, hg, hnumber⟩ := List.mem_map.mp hmem
  obtain ⟨sight, hkept, hsight⟩ := htold.exists_sight hg
  have hnumbers : (told.map (·.1)).Nodup := by
    have hnodup := nodup_surveyed f places
    rw [← all, List.map_map] at hnodup
    rw [htold.numbers]
    exact hnodup
  cases hnumber
  refine ⟨g, hg, rfl, ?_⟩
  rw [lookup_of_mem hnumbers hkept]
  exact Glance.tells_of_sight hsight fun t ht => glances.trouble hg ht

/-- A survey of the records at places. -/
structure Survey (s : Setup) (f : Fleet) (places : Places) (gs : List Glance) : Prop where
  /-- It is glances at the records, one after the other. -/
  glances : Glances s places gs f (f.observeAll s places).2
  /-- It sends the requests of the glances, and nothing else. -/
  sent : (f.observeAll s places).2.wire.sent = f.wire.sent ++ gs.flatMap (·.requests)
  /-- A glance sends what its record asks: one lookup, or none. -/
  asks : ∀ g ∈ gs, g.requests.map (fun q => (q.method, q.url)) = asksAt s f.records g.place
  /-- Every glance is at the record that it is numbered for. -/
  numbers : ∀ g ∈ gs, places[g.number]? = some g.place
  /-- There is one glance for a number. -/
  distinct : (gs.map (·.number)).Nodup
  /-- The kinds are taken in their order, and the records of a kind in the order of the list. -/
  order : gs.Pairwise fun a b =>
    f.turnOf a.place < f.turnOf b.place ∨ f.turnOf a.place = f.turnOf b.place ∧ a.number < b.number
  /-- The lookups follow the records, whatever the answers, and also after one that failed. -/
  follows : gs.map (fun g => (g.number, g.requests.map fun q => (q.method, q.url))) <+: lookups s f.records places
  /-- A fault that is told of no record ends the survey. Otherwise the lookups are those of all records, and what
  is told under a number is what came of its glance. -/
  told : match (f.observeAll s places).1 with
    | .error fault => ∃ g, gs.getLast? = some g ∧ g.outcome = .error (.escaped fault)
    | .ok sights =>
      gs.map (fun g => (g.number, g.requests.map fun q => (q.method, q.url))) = lookups s f.records places ∧
        sights.length = places.length ∧
        ∀ number sight, sights[number]? = some sight → ∃ g ∈ gs, g.number = number ∧ g.Tells sight

/-- What was told under the numbers of records is given in the order of the numbers. -/
theorem observeAll_eq (s : Setup) (f : Fleet) (places : Places) :
    f.observeAll s places =
      ((look s places (surveyed f.records places) [] f).1.map fun told =>
          (numbered places).map fun e => (told.lookup e.1).getD ⟨false, false, ""⟩,
        (look s places (surveyed f.records places) [] f).2) := by
  unfold observeAll
  dsimp only
  rw [show look s places (Kind.all.flatMap fun kind => (places.zipIdx.map fun e => (e.2, e.1)).filter fun e =>
    (f.records[e.2]?).any (·.kind = kind)) [] f = look s places (surveyed f.records places) [] f from rfl]
  rcases look s places (surveyed f.records places) [] f with ⟨outcome, after⟩
  cases outcome <;> rfl

/-- Looking at records is a survey of them. -/
theorem exists_survey {f : Fleet} {places : Places} (within : ∀ place ∈ places, place < f.records.length) :
    ∃ gs, Survey s f places gs := by
  have hwithin : ∀ e ∈ surveyed f.records places, e.2 < f.records.length := fun e he =>
    within e.2 (List.mem_of_getElem? (mem_numbered.mp (mem_surveyed.mp he).1))
  obtain ⟨gs, hgs, hfirst, hlook⟩ := look_glances s places (surveyed f.records places) [] hwithin
  have hfleet : (f.observeAll s places).2 = (look s places (surveyed f.records places) [] f).2 := by
    rw [observeAll_eq]
  have hasked : gs.map (fun g => (g.number, g.requests.map fun q => (q.method, q.url)))
      = (gs.map fun g => (g.number, g.place)).map fun e => (e.1, asksAt s f.records e.2) := by
    rw [List.map_map]
    exact List.map_congr_left fun g hg => Prod.ext rfl (hgs.asks hg)
  refine ⟨gs, hfleet ▸ hgs, hfleet ▸ hgs.sent, fun g hg => hgs.asks hg, fun g hg => ?_, ?_, ?_, ?_, ?_⟩
  · have hmem : (g.number, g.place) ∈ surveyed f.records places :=
      hfirst.subset (List.mem_map_of_mem (f := fun g : Glance => (g.number, g.place)) hg)
    exact mem_numbered.mp (mem_surveyed.mp hmem).1
  · have hnumbers := (nodup_surveyed f places).sublist (hfirst.map (·.1)).sublist
    rw [List.map_map] at hnumbers
    exact hnumbers
  · have horder := (pairwise_surveyed f places).sublist hfirst.sublist
    exact List.pairwise_map.mp horder
  · rw [hasked]
    exact hfirst.map _
  · rw [observeAll_eq]
    split at hlook
    · next fault h =>
      rw [h]
      exact hlook
    · next all h =>
      rw [h]
      obtain ⟨hall, told, hsights, htold⟩ := hlook
      obtain rfl : all = told := hsights
      refine ⟨?_, ?_, ?_⟩
      · rw [hasked, hall]
        rfl
      · rw [List.length_map, numbered, List.length_map, List.length_zipIdx]
      · intro number sight hsight
        rw [List.getElem?_map, getElem?_numbered, Option.map_map] at hsight
        obtain ⟨place, hplace, rfl⟩ := Option.map_eq_some_iff.mp hsight
        exact tells_of_told within hgs hall htold hplace

/-- A message is told exactly if a lookup failed. -/
theorem Survey.exists_failed_iff {f : Fleet} {places : Places} {gs : List Glance} (h : Survey s f places gs)
    {sights : List Sight} (ok : (f.observeAll s places).1 = .ok sights) :
    (∃ g ∈ gs, g.Failed) ↔ ∃ sight ∈ sights, sight.message ≠ "" := by
  have htold := h.told
  rw [ok] at htold
  obtain ⟨-, hlength, htells⟩ := htold
  constructor
  · rintro ⟨g, hg, hfailed⟩
    have hlt : g.number < sights.length := by
      rw [hlength]
      exact (List.getElem?_eq_some_iff.mp (h.numbers g hg)).1
    obtain ⟨u, hu, hnumber, hsight⟩ := htells g.number _ (List.getElem?_eq_getElem hlt)
    -- there is one glance for the number
    obtain rfl : u = g := List.inj_on_of_nodup_map h.distinct hu hg hnumber
    exact ⟨_, List.getElem_mem hlt, fun hempty => (Glance.message_eq_empty_iff hsight).mp hempty hfailed⟩
  · rintro ⟨sight, hmem, hmessage⟩
    obtain ⟨number, hsight⟩ := List.mem_iff_getElem?.mp hmem
    obtain ⟨g, hg, -, hg'⟩ := htells number sight hsight
    exact ⟨g, hg, not_not.mp fun hno => hmessage ((Glance.message_eq_empty_iff hg').mpr hno)⟩

end Fleet

end InfluxKeeper
