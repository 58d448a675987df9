import InfluxKeeper.Proofs.Fleet.Discipline
import InfluxKeeper.Proofs.Reconcile.Pointers

/-!
# Dependents are created with final identities

A convergence in the order of dependence reconciles what is pointed to before what points to it.

> `converge_creates_dependents`: whatever a convergence creates is sent with the identities that the records
> it points to have at the end of the convergence.

Three facts carry this. A resolver of the records at hand reads the records as they are at a turn
(`resolve?_of_mem`), and in the phase of a pointing record, the records pointed to are done with
(`Turns.records_of_notMem`). And the reference that a pointer has at a creation is the one that it has at the
end: selectors pick by what records are known by, which no turn changes (`Turns.select?`), so that a pointer
that was resolved once is settled (`Turns.aims`).
-/

namespace InfluxKeeper

open Api

/-- A record by its kind and name. -/
def Record.designation (r : Record) : Kind × String := (r.kind, r.name)

/-! ## Directories of different records -/

namespace Directory

theorem enter_of_notMem {d : Directory} {r : Record} (h : r.designation ∉ d.map Record.designation) :
    d.enter r = d ++ [r] := by
  induction d with
  | nil => rfl
  | cons x rest ih =>
    rw [List.map_cons, List.mem_cons, not_or] at h
    have hne : ¬(x.kind = r.kind ∧ x.name = r.name) := fun ⟨hk, hn⟩ =>
      h.1 (by rw [Record.designation, Record.designation, hk, hn])
    rw [enter, if_neg hne, ih h.2]
    rfl

theorem foldl_enter {records : List Record} {d : Directory}
    (h : ((d ++ records).map Record.designation).Nodup) :
    records.foldl (fun d r => d.enter r) d = d ++ records := by
  induction records generalizing d with
  | nil => rw [List.foldl_nil, List.append_nil]
  | cons r rest ih =>
    have hr : r.designation ∉ d.map Record.designation := by
      rw [List.map_append, List.map_cons, List.nodup_append] at h
      exact fun hd => h.2.2 _ hd _ List.mem_cons_self rfl
    have happend : d ++ r :: rest = d ++ [r] ++ rest := by rw [List.append_assoc]; rfl
    rw [happend] at h ⊢
    rw [List.foldl_cons, enter_of_notMem hr]
    exact ih h

/-- A directory of records with different designations holds them as they are. -/
theorem ofRecords_of_nodup {records : List Record} (h : (records.map Record.designation).Nodup) :
    ofRecords records = records :=
  foldl_enter (d := []) h

theorem find?_of_mem {d : Directory} (h : (d.map Record.designation).Nodup) {r : Record} (hr : r ∈ d) :
    d.find? r.kind.name r.name = some r := by
  cases hf : d.find? r.kind.name r.name with
  | none =>
    have hnone := List.find?_eq_none.mp hf r hr
    simp at hnone
  | some r' =>
    have hkey : r'.kind.name = r.kind.name ∧ r'.name = r.name := by simpa using List.find?_some hf
    have hkind : r'.kind = r.kind := by simpa using congrArg Kind.ofName? hkey.1
    have hsame : r'.designation = r.designation := by
      rw [Record.designation, Record.designation, hkind, hkey.2]
    rw [List.inj_on_of_nodup_map h (List.mem_of_find?_eq_some hf) hr hsame]

/-- What is selected depends on what records are known by. -/
theorem select?_congr {d d' : Directory} (h : d.map Record.card = d'.map Record.card) :
    d.select? = d'.select? := by
  have hcards (d : Directory) (kind : String) (labels : List (String × Value)) :
      d.select? kind labels = ((d.map Record.card).find? fun c => c.1.name = kind &&
        labels.all fun l => ((c.2.2.lookup l.1).getD .null).same l.2).map (·.2.1) := by
    rw [List.find?_map, Option.map_map]
    rfl
  funext kind labels
  rw [hcards, hcards, h]

end Directory

namespace Fleet

variable {s : Setup} {names : Option Places} {places : Places}

/-! ## Looking records up in a run -/

/-- The kind and name of the record at a place. -/
def designationAt? (f : Fleet) (place : Nat) : Option (Kind × String) :=
  (f.records[place]?).map Record.designation

theorem Turns.designationAt? {turns : List Turn} {f f' : Fleet} (h : Turns s names turns f f')
    (place : Nat) : f'.designationAt? place = f.designationAt? place := by
  have hcard := congrArg (Option.map fun c => (c.1, c.2.1)) (h.card place)
  rw [Option.map_map, Option.map_map] at hcard
  exact hcard

/-- Different designations stay different in a run. -/
theorem Turns.distinct {turns : List Turn} {f f' : Fleet} (h : Turns s names turns f f')
    (distinct : (places.map f.designationAt?).Nodup) : (places.map f'.designationAt?).Nodup := by
  have hsame : f'.designationAt? = f.designationAt? := funext h.designationAt?
  rwa [hsame]

theorem nodup_records {f : Fleet} (distinct : (places.map f.designationAt?).Nodup) :
    ((places.filterMap (f.records[·]?)).map Record.designation).Nodup := by
  have h : (places.filterMap (f.records[·]?)).map Record.designation
      = (places.map f.designationAt?).filterMap id := by
    rw [List.map_filterMap, List.filterMap_map]
    rfl
  rw [h]
  exact distinct.filterMap fun a a' b hb hb' => by
    rw [show a = some b from hb, show a' = some b from hb']

theorem directory_eq {f : Fleet} (distinct : (places.map f.designationAt?).Nodup) :
    f.directory places = places.filterMap (f.records[·]?) :=
  Directory.ofRecords_of_nodup (nodup_records distinct)

/-- Records resolve to what they are at the time, or to nothing as long as they are nothing. -/
theorem resolve?_eq_of_mem {f : Fleet} (distinct : (places.map f.designationAt?).Nodup) {place : Nat}
    (hp : place ∈ places) {r : Record} (hr : f.records[place]? = some r) {k : Kind} {name : String}
    (hk : r.kind = k) (hn : r.name = name) (i : Identity) :
    (f.resolver places).resolve? k.name name i =
      if (i.of k.name r).truthy then some (i.of k.name r) else none := by
  subst hk hn
  have hfind := Directory.find?_of_mem (nodup_records distinct) (List.mem_filterMap.mpr ⟨place, hp, hr⟩)
  show (f.directory places).resolve? r.kind.name r.name i = _
  unfold Directory.resolve?
  rw [directory_eq distinct, hfind]

theorem resolve?_of_mem {f : Fleet} (distinct : (places.map f.designationAt?).Nodup) {place : Nat}
    (hp : place ∈ places) {r : Record} (hr : f.records[place]? = some r) {k : Kind} {name : String}
    (hk : r.kind = k) (hn : r.name = name) {i : Identity} (ht : (i.of k.name r).truthy = true) :
    (f.resolver places).resolve? k.name name i = some (i.of k.name r) := by
  rw [resolve?_eq_of_mem distinct hp hr hk hn i, if_pos ht]

/-- What selectors pick does not change in a run. -/
theorem Turns.select? {turns : List Turn} {f f' : Fleet} (h : Turns s names turns f f')
    (distinct : (places.map f.designationAt?).Nodup) :
    (f'.resolver places).select? = (f.resolver places).select? := by
  show (f'.directory places).select? = (f.directory places).select?
  rw [directory_eq distinct, directory_eq (h.distinct distinct)]
  refine Directory.select?_congr ?_
  rw [List.map_filterMap, List.map_filterMap]
  exact congrArg (List.filterMap · places) (funext h.card)

/-! ## Pointers in a run -/

/-- A turn resolves the pointers of its record, and they are settled then. -/
theorem Turns.pointers {t : Turn} {f g : Fleet} (h : Turns s (some places) [t] f g)
    (distinct : (places.map f.designationAt?).Nodup) {r : Record} (hr : f.records[t.place]? = some r)
    (hk : r.kind ∈ s.kinds) :
    ∃ r', g.records[t.place]? = some r' ∧
      r'.resource.pointers = r.resource.pointers.map (·.resolve (f.resolver places)) ∧
      ∀ x ∈ r'.resource.pointers, x.Settled (g.resolver places).select? := by
  obtain ⟨-, -, hrecord⟩ := h.of_some hr
  have hpointers := Work.pointers_reconcile (s := s) (f.resolver places) (w := f.work r) hk
  refine ⟨_, hrecord, hpointers, fun x hx => ?_⟩
  rw [Option.map_some, hpointers] at hx
  obtain ⟨y, -, rfl⟩ := List.mem_map.mp hx
  rw [h.select? distinct]
  exact y.settled_resolve (f.resolver places)

/-- Settled pointers of the record at a place keep what they point to in a run. -/
theorem Turns.aims {turns : List Turn} {f f' : Fleet} (h : Turns s (some places) turns f f')
    (distinct : (places.map f.designationAt?).Nodup) {place : Nat} {r : Record}
    (hr : f.records[place]? = some r)
    (settled : ∀ x ∈ r.resource.pointers, x.Settled (f.resolver places).select?) :
    ∃ r', f'.records[place]? = some r' ∧
      r'.resource.pointers.map Pointer.aim = r.resource.pointers.map Pointer.aim := by
  induction h generalizing r with
  | nil => exact ⟨r, hr, rfl⟩
  | @cons t rest f g f' taken sent more ih =>
    have hturn : Turns s (some places) [t] f g := .cons taken sent (.nil g)
    have hselect := hturn.select? distinct
    have hdistinct := hturn.distinct distinct
    by_cases hp : t.place = place
    · subst hp
      by_cases hk : r.kind ∈ s.kinds
      · -- the turn resolves the pointers once more
        obtain ⟨r₁, hr₁, hpointers, hsettled⟩ := hturn.pointers distinct hr hk
        obtain ⟨r', hr', haims⟩ := ih hdistinct hr₁ hsettled
        refine ⟨r', hr', haims.trans ?_⟩
        rw [hpointers, List.map_map]
        exact List.map_congr_left fun x hx => Pointer.aim_resolve (settled x hx)
      · obtain ⟨-, -, hrecord⟩ := hturn.of_some hr
        rw [Option.map_some, Work.reconcile_of_unhandled hk] at hrecord
        exact ih hdistinct hrecord (hselect ▸ settled)
    · have hrecord : g.records[place]? = some r := by
        rw [hturn.records_of_notMem (by simpa using hp), hr]
      exact ih hdistinct hrecord (hselect ▸ settled)

/-! ## Creations -/

/-- The records at places are pointed to by a creation as they are: the field of every pointer that refers
to one of them holds the identity asked for, if the record has it. -/
def Carries (f : Fleet) (places : Places) (r : Record) (q : Request) : Prop :=
  ∀ x ∈ r.resource.pointers, ∀ ref, x.reference = some ref →
    ∀ place ∈ places, ∀ target, f.records[place]? = some target →
      target.kind = x.kind → target.name = ref.name → (x.identity.of x.kind.name target).truthy = true →
        q.field? x.key = some (x.identity.of x.kind.name target)

/-- A creation is sent with the identities that the records pointed to have at the turn. -/
theorem Turns.field?_create {t : Turn} {f g : Fleet} (h : Turns s (some places) [t] f g)
    (distinct : (places.map f.designationAt?).Nodup) {r : Record} (hr : f.records[t.place]? = some r)
    {q : Request} (hq : q ∈ t.requests) (hm : q.method = Mutation.create.method) {x : Pointer}
    (hx : x ∈ r.resource.pointers) {ref : Reference}
    (href : (x.resolve (f.resolver places)).reference = some ref) {place : Nat} (hp : place ∈ places)
    {target : Record} (htarget : f.records[place]? = some target) (hkind : target.kind = x.kind)
    (hname : target.name = ref.name) (ht : (x.identity.of x.kind.name target).truthy = true) :
    q.field? x.key = some (x.identity.of x.kind.name target) := by
  obtain ⟨-, hrequests, -⟩ := h.of_some hr
  have hresolved := resolve?_of_mem distinct hp htarget hkind hname ht
  have hvalue := Pointer.value_resolve href hresolved
  rw [← hvalue]
  exact Work.field?_create (hrequests ▸ hq) hm hx (hvalue ▸ ht)

/-- In the order of dependence, what a record points to comes before it. -/
theorem phase_lt_of_mem_pointers {f : Fleet} {place target : Nat} {r : Record} {x : Pointer}
    (hr : f.records[place]? = some r) (hx : x ∈ r.resource.pointers)
    (ht : f.kindAt? target = some x.kind) :
    f.phase (Kind.all.map Kind.name) target < f.phase (Kind.all.map Kind.name) place := by
  have hk : f.kindAt? place = some r.kind := congrArg (Option.map Record.kind) hr
  unfold phase
  rw [ht, hk]
  exact Resource.kind_lt_of_mem_pointers hx

/-- The records of an earlier phase are done with. -/
theorem Turns.records_of_phase {t : Turn} {after : List Turn} {f f' : Fleet}
    (h : Turns s names (t :: after) f f') {order : List String}
    (ordered : (t :: after).Pairwise fun t u => f.phase order t.place ≤ f.phase order u.place) {place : Nat}
    (hp : f.phase order place < f.phase order t.place) : f'.records[place]? = f.records[place]? := by
  refine h.records_of_notMem fun u hu hplace => ?_
  rw [← hplace] at hp
  rcases List.mem_cons.mp hu with rfl | hu
  · exact absurd hp (Nat.lt_irrefl _)
  · exact absurd hp (Nat.not_lt.mpr ((List.pairwise_cons.mp ordered).1 u hu))

/-- What a turn creates is sent with the identities that the records pointed to have at the end of a run, if
the turns from then on are in the order of dependence. -/
theorem Turns.carries {t : Turn} {after : List Turn} {f f' : Fleet}
    (h : Turns s (some places) (t :: after) f f') (distinct : (places.map f.designationAt?).Nodup)
    (ordered : (t :: after).Pairwise fun t u =>
      f.phase (Kind.all.map Kind.name) t.place ≤ f.phase (Kind.all.map Kind.name) u.place)
    {q : Request} (hq : q ∈ t.requests) (hm : q.method = Mutation.create.method) :
    ∃ r, f'.records[t.place]? = some r ∧ q.url = s.client.base ++ r.kind.path ∧
      f'.Carries places r q := by
  obtain ⟨g, hturn, hafter⟩ := h.of_cons
  cases hr : f.records[t.place]? with
  | none => rw [hturn.of_none hr] at hq; cases hq
  | some r =>
    obtain ⟨-, hrequests, -⟩ := hturn.of_some hr
    have hqw : q ∈ (f.work r).requests s (some (f.resolver places)) := hrequests ▸ hq
    -- once resolved, the pointers keep their references
    obtain ⟨r₁, hr₁, hpointers, hsettled⟩ := hturn.pointers distinct hr (Work.mem_requests hqw).1
    obtain ⟨r', hr', haims⟩ := hafter.aims (hturn.distinct distinct) hr₁ hsettled
    have hkind : r'.kind = r.kind := by
      have hkindAt := h.kindAt? t.place
      unfold Fleet.kindAt? at hkindAt
      rw [hr, hr'] at hkindAt
      exact Option.some.inj hkindAt
    refine ⟨r', hr', ?_, ?_⟩
    · rw [hkind]
      exact Work.url_create hqw hm
    intro x hx ref href place hp target htarget htargetKind hname ht
    rw [hpointers] at haims
    obtain ⟨z, hz, haim⟩ := List.mem_map.mp (haims ▸ List.mem_map_of_mem hx)
    obtain ⟨y, hy, rfl⟩ := List.mem_map.mp hz
    have haim : (y.key, y.kind, y.identity, (y.resolve (f.resolver places)).reference) = x.aim := haim
    simp only [Pointer.aim, Prod.mk.injEq] at haim
    obtain ⟨hkey, hykind, hidentity, hreference⟩ := haim
    rw [← hykind] at htargetKind ht
    rw [← hidentity] at ht
    rw [← hkey, ← hykind, ← hidentity]
    -- the record pointed to is of an earlier phase
    have htargetKindAt : f.kindAt? place = some y.kind := by
      rw [← h.kindAt?, ← htargetKind]
      exact congrArg (Option.map Record.kind) htarget
    have hphase := phase_lt_of_mem_pointers hr hy htargetKindAt
    have hthere := (h.records_of_phase ordered hphase).symm.trans htarget
    exact hturn.field?_create distinct hr hq hm hy (hreference.trans href) hp hthere htargetKind hname ht

/-- A fleet after a convergence of the records at places, in the order in which kinds depend on each other and
with references among these records. -/
def converged (s : Setup) (places : Places) (maxPasses : Option Int) (f : Fleet) : Fleet :=
  (f.converge s none places maxPasses (Kind.all.map Kind.name)).2

/-- **Dependents are created with final identities.** Over records with different designations, whatever the
answers and however the convergence ends, every creation is sent for a record, and with the identities that the
records it points to have at the end of the convergence. -/
theorem converge_creates_dependents (s : Setup) (places : Places) (maxPasses : Option Int) (f : Fleet)
    (distinct : (places.map f.designationAt?).Nodup) :
    ∃ turns, Turns s (some places) turns f (f.converged s places maxPasses) ∧
      (∀ t ∈ turns, t.place ∈ places) ∧
      (f.converged s places maxPasses).wire.sent = f.wire.sent ++ turns.flatMap (·.requests) ∧
      ∀ t ∈ turns, ∀ q ∈ t.requests, q.method = "POST" →
        ∃ r, (f.converged s places maxPasses).records[t.place]? = some r ∧
          q.url = s.client.base ++ r.kind.path ∧ (f.converged s places maxPasses).Carries places r q := by
  have hall (k : Kind) : k.name ∈ Kind.all.map Kind.name := by cases k <;> decide
  obtain ⟨turns, hturns, hwithin, hordered⟩ := converge_ordered s none maxPasses
    (List.Nodup.of_map _ distinct) (by decide) (fun r _ => hall r.kind)
  refine ⟨turns, hturns, hwithin, hturns.sent, fun t ht q hq hpost => ?_⟩
  obtain ⟨before, after, g, g', rfl, hbefore, hturn, hafter⟩ := hturns.of_mem ht
  have hrest : Turns s (some places) (t :: after) g (f.converged s places maxPasses) := hturn.append hafter
  refine hrest.carries (hbefore.distinct distinct) ?_ hq hpost
  simp only [hbefore.phase]
  exact (List.pairwise_append.mp hordered).2.1

/-- A mapping, the bucket that it refers to, and an organization that the bucket selects and the mapping
refers to. None of them exists at first. -/
def chained : Fleet :=
  ⟨[.ofName "all" (.mapping ⟨.text "", some ⟨"logs"⟩, none, "db", .null, .text "", some ⟨"acme"⟩, none, "rp"⟩
      .empty),
    .ofName "logs" (.bucket { Bucket.Parameters.empty with orgIDSelector := some ⟨[("team", "a")]⟩ } .empty),
    { Record.ofName "acme" (.organization ⟨none⟩ .empty) with
      metadata := ⟨"acme", [("team", .text "a")], [], none⟩ }],
    .ofAnswers [.response 404 "", .response 201 "",
      .ofValue (.object [("orgs", .list [.object [("id", .text "o1")]])]),
      .response 404 "", .response 201 "",
      .ofValue (.object [("buckets", .list [.object [("id", .text "b1")]])]),
      .ofValue (.object [("id", .text "m1")])], []⟩

/-- They are created with each other's identities. -/
theorem converge_creates_dependents_chained :
    let s := Setup.ofClient ⟨"http://db", "", 30⟩
    ((chained.converged s [0, 1, 2] none).wire.sent.filter (·.method = "POST")).map (fun q =>
        (q.url, q.field? "orgID", q.field? "bucketID", q.field? "org"))
        = [("http://db/orgs", none, none, none), ("http://db/buckets", some (.text "o1"), none, none),
          ("http://db/dbrps", none, some (.text "b1"), some (.text "acme"))] ∧
      ([0, 1, 2].map chained.designationAt?).Nodup ∧
      ∃ turns, Turns s (some [0, 1, 2]) turns chained (chained.converged s [0, 1, 2] none) ∧
        (∀ t ∈ turns, t.place ∈ [0, 1, 2]) ∧
        (chained.converged s [0, 1, 2] none).wire.sent
          = chained.wire.sent ++ turns.flatMap (·.requests) ∧
        ∀ t ∈ turns, ∀ q ∈ t.requests, q.method = "POST" →
          ∃ r, (chained.converged s [0, 1, 2] none).records[t.place]? = some r ∧
            q.url = s.client.base ++ r.kind.path ∧
            (chained.converged s [0, 1, 2] none).Carries [0, 1, 2] r q := by
  intro s
  have hdistinct : ([0, 1, 2].map chained.designationAt?).Nodup := by decide +kernel
  exact ⟨by decide +kernel, hdistinct, converge_creates_dependents s [0, 1, 2] none chained hdistinct⟩

end Fleet

end InfluxKeeper
