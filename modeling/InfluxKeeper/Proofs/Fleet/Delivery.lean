import InfluxKeeper.Proofs.Fleet.Dependents
import InfluxKeeper.Proofs.Reconcile.Telling
import InfluxKeeper.Settings

/-!
# What a convergence delivers

A convergence keeps results under the numbers of its records, and reads one under every number when all passes
are done. Whether it finds them all depends on its two limits alone, that of passes and that of slots:

> `converge_delivers_iff`: if no reconcile ends in a fault, there is one result of every record exactly if a pass
> is allowed and there is a slot, or there is no record. Otherwise nothing is done: without a pass the first number
> is missing, and without a slot for a pass the convergence never ends.

The passes of a kind give every pending record a result and take none away (`passes_report`), so after the kinds
of all records every number has one. It is the one of its own record (`Reports`), also where a record is listed
twice.
-/

namespace InfluxKeeper

open Api

namespace Fleet

variable {s : Setup} {names : Option Places}

/-! ## Results of records -/

/-- There is a result under a number that is about the record at a place. -/
def Reports (f : Fleet) (results : Results) (e : Nat × Nat) : Prop :=
  ∃ result : Result, results.lookup e.1 = some result ∧
    f.designationAt? e.2 = some (result.kind, result.name)

/-- Turns do not change which record a result is about. -/
theorem Turns.reports_iff {turns : List Turn} {f g : Fleet} (h : Turns s names turns f g) {results : Results}
    {e : Nat × Nat} : g.Reports results e ↔ f.Reports results e := by
  unfold Reports
  rw [h.designationAt?]

/-- The result of a turn is about the record that had it. -/
theorem Turns.subject {turns : List Turn} {f g : Fleet} (h : Turns s names turns f g) {t : Turn}
    (ht : t ∈ turns) {result : Result} (hresult : t.outcome = .ok result) :
    f.designationAt? t.place = some (result.kind, result.name) := by
  obtain ⟨before, after, f₁, f₂, -, hbefore, hturn, -⟩ := h.of_mem ht
  rw [← hbefore.designationAt?]
  cases hr : f₁.records[t.place]? with
  | none =>
    -- a place beyond the records has no result
    cases hturn with
    | cons taken _ _ =>
      unfold reconcileAt workAt at taken
      rw [hr, hresult] at taken
      cases taken
  | some r =>
    obtain ⟨houtcome, -, -⟩ := hturn.of_some hr
    have hreconciled := Prod.fst_eq_iff.mp (houtcome.symm.trans hresult)
    obtain ⟨hkind, hname⟩ := (Work.reconcile_tells hreconciled).subject
    unfold Fleet.designationAt?
    rw [hr, hkind, hname]
    rfl

/-! ## The passes of a kind -/

/-- The results of a pass are about the records that it was over. -/
theorem reports_enterAll {pass : List ((Nat × Nat) × Result)} (unique : (pass.map (·.1.1)).Nodup) {f : Fleet}
    (about : ∀ x ∈ pass, f.designationAt? x.1.2 = some (x.2.kind, x.2.name)) {e : Nat × Nat}
    (he : e ∈ pass.map (·.1)) (results : Results) : f.Reports (results.enterAll pass) e := by
  obtain ⟨x, hx, rfl⟩ := List.mem_map.mp he
  exact ⟨x.2, Results.lookup_enterAll_of_mem unique hx results, about x hx⟩

/-- What passes over pending records leave: a result of each of them, if a pass is allowed, and every result that
was there before, if numbers are not used twice. -/
structure Reported (f : Fleet) (limit : Nat) (pending : List (Nat × Nat)) (results results' : Results)
    (turns : List Turn) : Prop where
  faultless : Faultless turns
  given : 0 < limit → ∀ e ∈ pending, f.Reports results' e
  kept : ∀ e, (e.1 ∈ pending.map (·.1) → e ∈ pending) → f.Reports results e → f.Reports results' e

/-- A pass is followed by the passes over what stays pending. -/
theorem Reported.of_pass {limit : Nat} {pass : List ((Nat × Nat) × Result)} {turns more : List Turn}
    {results results' : Results} {f g : Fleet} (hturns : Turns s names turns f g)
    (unique : (pass.map (·.1.1)).Nodup) (faultless : Faultless turns)
    (about : ∀ x ∈ pass, f.designationAt? x.1.2 = some (x.2.kind, x.2.name))
    (h : g.Reported limit (still pass) (results.enterAll pass) results' more) :
    f.Reported (limit + 1) (pass.map (·.1)) results results' (turns ++ more) := by
  have hnumbers : ((pass.map (·.1)).map (·.1)).Nodup := by rwa [List.map_map]
  have hsub := still_sublist pass
  have hlater (e : Nat × Nat) (he : e.1 ∈ (pass.map (·.1)).map (·.1) → e ∈ pass.map (·.1))
      (hentered : f.Reports (results.enterAll pass) e) : f.Reports results' e := by
    refine hturns.reports_iff.mp (h.kept e (fun hnumber => ?_) (hturns.reports_iff.mpr hentered))
    -- a number that stays pending is that of the record it was
    obtain ⟨x, hx, hxe⟩ := List.mem_map.mp hnumber
    have hmem := he ((hsub.map (·.1)).subset hnumber)
    rw [← List.inj_on_of_nodup_map hnumbers (hsub.subset hx) hmem hxe]
    exact hx
  refine ⟨faultless.append h.faultless, fun _ e he => ?_, fun e he hbefore => ?_⟩
  · exact hlater e (fun _ => he) (reports_enterAll unique about he results)
  · refine hlater e he ?_
    by_cases hmem : e ∈ pass.map (·.1)
    · exact reports_enterAll unique about hmem results
    · obtain ⟨result, hlookup, hsubject⟩ := hbefore
      refine ⟨result, ?_, hsubject⟩
      rw [Results.lookup_enterAll_of_notMem fun hnumber => hmem (he (by rwa [List.map_map]))]
      exact hlookup

/-- Passes over pending records are turns. Unless one of these ends in a fault or there is no slot for them, the
passes leave a result of every pending record, if one of them is allowed, and take no result away. -/
theorem passes_report (s : Setup) (names : Option Places) (limit : Nat) {pending : List (Nat × Nat)}
    (unique : (pending.map (·.1)).Nodup) (results : Results) (f : Fleet) :
    ∃ turns, Turns s names turns f (passes s names limit pending results f).2 ∧
      match (passes s names limit pending results f).1 with
      | .error halt => Explains s turns halt
      | .ok results' => f.Reported limit pending results results' turns := by
  induction limit generalizing pending results f with
  | zero =>
    exact ⟨[], .nil f, List.forall_mem_nil _, fun h => absurd h (Nat.lt_irrefl 0), fun _ _ h => h⟩
  | succ limit ih =>
    by_cases hp : pending = []
    · subst hp
      exact ⟨[], .nil f, List.forall_mem_nil _, fun _ => List.forall_mem_nil _, fun _ _ h => h⟩
    have hstep := passes_succ s names limit hp results f
    rcases hr : f.reconcileAll s names (pending.map (·.2)) with ⟨halt | outcomes, g⟩
    · -- a pass without results is the last one
      obtain ⟨turns, hturns, -, houtcome⟩ := reconcileAll_turns s names (pending.map (·.2)) f
      rw [hr] at hturns houtcome hstep
      rw [hstep]
      exact ⟨turns, hturns, houtcome⟩
    obtain ⟨hpass, turns, hturns, -, hfaultless, hone⟩ := pass_outcomes hr
    rw [hr] at hstep
    rw [hstep]
    dsimp only
    generalize pending.zip outcomes = pass at hpass hone ⊢
    subst hpass
    have habout (x : (Nat × Nat) × Result) (hx : x ∈ pass) :
        f.designationAt? x.1.2 = some (x.2.kind, x.2.name) := by
      obtain ⟨t, ht, hplace, hresult⟩ := hone x hx
      rw [← hplace]
      exact hturns.subject ht hresult
    obtain ⟨more, hmore, houtcome⟩ :=
      ih (((still_sublist pass).map (·.1)).nodup unique) (results.enterAll pass) g
    refine ⟨turns ++ more, hturns.append hmore, ?_⟩
    revert houtcome
    rcases (passes s names limit (still pass) (results.enterAll pass) g).1 with halt | results'
    · exact fun hexplains => hexplains.append turns
    · intro hreported
      rw [List.map_map] at unique
      exact hreported.of_pass hturns unique hfaultless habout

/-! ## Kind after kind -/

/-- The passes over kind after kind are turns. Unless one of these ends in a fault or there is no slot for them,
the passes leave a result of every record of the kinds, if one of them is allowed, and take no result away. -/
theorem passesByKind_report (s : Setup) (names : Option Places) (limit : Nat) {numbered : List (Nat × Nat)}
    (unique : (numbered.map (·.1)).Nodup) (order : List String) (results : Results) (f : Fleet) :
    ∃ turns, Turns s names turns f (passesByKind s names limit numbered order results f).2 ∧
      match (passesByKind s names limit numbered order results f).1 with
      | .error halt => Explains s turns halt
      | .ok results' => Faultless turns ∧ ∀ e ∈ numbered, (f.Reports results e ∨
          0 < limit ∧ ∃ k, f.kindAt? e.2 = some k ∧ k.name ∈ order) → f.Reports results' e := by
  induction order generalizing results f with
  | nil =>
    refine ⟨[], .nil f, List.forall_mem_nil _, fun e _ h => h.resolve_right ?_⟩
    rintro ⟨-, k, -, hk⟩
    cases hk
  | cons kind rest ih =>
    have hsub : (numbered.filter fun e => (f.records[e.2]?).any (·.kind.name = kind)).Sublist numbered :=
      List.filter_sublist
    obtain ⟨turns, hturns, houtcome⟩ := passes_report s names limit ((hsub.map (·.1)).nodup unique) results f
    unfold passesByKind
    dsimp only
    split
    · -- passes without results are the last ones, also of the other kinds
      next halt g hp =>
      rw [hp] at hturns houtcome
      exact ⟨turns, hturns, houtcome⟩
    next results' g hp =>
    rw [hp] at hturns houtcome
    obtain ⟨more, hmore, hresults⟩ := ih results' g
    refine ⟨turns ++ more, hturns.append hmore, ?_⟩
    revert hresults
    rcases (passesByKind s names limit numbered rest results' g).1 with halt | results''
    · exact fun hexplains => hexplains.append turns
    rintro ⟨hfaultless, hgiven⟩
    refine ⟨houtcome.faultless.append hfaultless, fun e he h => ?_⟩
    -- what is reported after the first kind stays so, and any other record is of the rest
    refine hturns.reports_iff.mp (hgiven e he ?_)
    rw [hturns.reports_iff, hturns.kindAt?]
    rcases h with hbefore | ⟨hlimit, k, hkind, hk⟩
    · refine Or.inl (houtcome.kept e (fun hnumber => ?_) hbefore)
      obtain ⟨x, hx, hxe⟩ := List.mem_map.mp hnumber
      rw [← List.inj_on_of_nodup_map unique (hsub.subset hx) he hxe]
      exact hx
    · rcases List.mem_cons.mp hk with hfirst | hrest
      · refine Or.inl (houtcome.given hlimit e (List.mem_filter.mpr ⟨he, ?_⟩))
        unfold Fleet.kindAt? at hkind
        obtain ⟨r, hr, rfl⟩ := Option.map_eq_some_iff.mp hkind
        rw [hr]
        exact decide_eq_true hfirst
      · exact Or.inr ⟨hlimit, k, hkind, hrest⟩

/-- Without a pass there is no result. -/
theorem passesByKind_zero (s : Setup) (names : Option Places) (numbered : List (Nat × Nat))
    (order : List String) (results : Results) (f : Fleet) :
    passesByKind s names 0 numbered order results f = (.ok results, f) := by
  induction order with
  | nil => rfl
  | cons kind rest ih => exact ih

/-- Of no records there are no results. -/
theorem passesByKind_nil (s : Setup) (names : Option Places) (limit : Nat) (order : List String)
    (results : Results) (f : Fleet) : passesByKind s names limit [] order results f = (.ok results, f) := by
  induction order with
  | nil => rfl
  | cons kind rest ih =>
    cases limit with
    | zero => exact ih
    | succ limit => exact ih

/-! ## The convergence -/

/-- One result of every record, in the order of the records. -/
def Delivered (f : Fleet) (places : Places) (found : List Result) : Prop :=
  List.Forall₂ (fun place result => f.designationAt? place = some (result.kind, result.name)) places found

/-- Results that are there under all numbers are collected. -/
theorem collect_delivers {f : Fleet} {results : Results} {numbered : List (Nat × Nat)}
    (h : ∀ e ∈ numbered, f.Reports results e) :
    ∃ found, collect results (numbered.map (·.1)) = .ok found ∧ f.Delivered (numbered.map (·.2)) found := by
  induction numbered with
  | nil => exact ⟨[], rfl, .nil⟩
  | cons e rest ih =>
    obtain ⟨⟨result, hlookup, hsubject⟩, hrest⟩ := List.forall_mem_cons.mp h
    obtain ⟨found, hfound, hdelivered⟩ := ih hrest
    refine ⟨result :: found, ?_, .cons hsubject hdelivered⟩
    rw [List.map_cons, collect, hlookup, hfound]
    rfl

/-- Every numbered record that is there has a kind. -/
theorem exists_kindAt?_of_known {places : Places} {order : List String} {f : Fleet}
    (present : ∀ place ∈ places, place < f.records.length)
    (known : ∀ r ∈ places.filterMap (f.records[·]?), r.kind.name ∈ order) {e : Nat × Nat}
    (he : e ∈ numbered places) : ∃ k, f.kindAt? e.2 = some k ∧ k.name ∈ order := by
  have hplace : e.2 ∈ places := List.mem_of_getElem? (mem_numbered.mp he)
  have hr := List.getElem?_eq_getElem (present e.2 hplace)
  refine ⟨_, ?_, known _ (List.mem_filterMap.mpr ⟨e.2, hplace, hr⟩)⟩
  unfold Fleet.kindAt?
  rw [hr]
  rfl

/-- Without a pass, nothing is done, and there is no result of the first record. -/
theorem converge_without_pass (s : Setup) (names : Option Places) {places : Places} {maxPasses : Option Int}
    {order : List String} {f : Fleet} (some_place : places ≠ []) (none_allowed : passLimit s maxPasses = 0)
    (known : ∀ r ∈ places.filterMap (f.records[·]?), r.kind.name ∈ order) :
    f.converge s names places maxPasses order = (.error (.fault (.missingKey (.int 0))), f) := by
  rw [converge_eq s names maxPasses known, none_allowed, passesByKind_zero]
  obtain ⟨place, rest, rfl⟩ := List.exists_cons_of_ne_nil some_place
  rfl

/-- Without a slot for a pass, nothing is done either, and the first record is waited for. -/
theorem converge_without_slot (names : Option Places) {places : Places} {maxPasses : Option Int}
    {order : List String} {f : Fleet} (some_place : places ≠ []) (allowed : 0 < passLimit s maxPasses)
    (none_free : s.maxConcurrent ≤ 0) (present : ∀ place ∈ places, place < f.records.length)
    (known : ∀ r ∈ places.filterMap (f.records[·]?), r.kind.name ∈ order) :
    f.converge s names places maxPasses order = (.error .stalled, f) := by
  rw [converge_eq s names maxPasses known]
  rcases passesByKind_of_no_slot none_free (some (names.getD places)) (passLimit s maxPasses) (numbered places)
    order [] f with ⟨hstalled, -⟩ | ⟨-, hlimit | hnone⟩
  · rw [hstalled]
  · exact absurd hlimit (Nat.ne_of_gt allowed)
  · -- there is a record, and its kind is in the order
    obtain ⟨e, he⟩ := List.exists_mem_of_ne_nil (numbered places) fun hempty => some_place (by
      rw [← map_snd_numbered places, hempty]
      rfl)
    obtain ⟨k, hkind, hk⟩ := exists_kindAt?_of_known present known he
    exact absurd hk (hnone e he k hkind)

theorem converge_nil (s : Setup) (names : Option Places) (maxPasses : Option Int) (order : List String)
    (f : Fleet) : f.converge s names [] maxPasses order = (.ok [], f) := by
  rw [converge_eq s names maxPasses (fun _ h => by cases h), show numbered [] = [] from rfl, passesByKind_nil]
  rfl

/-- With a pass, a convergence is turns that give one result of every record, unless a turn ends in a fault or
there is no slot. -/
theorem converge_with_pass (s : Setup) (names : Option Places) {places : Places} {maxPasses : Option Int}
    {order : List String} {f : Fleet} (allowed : 0 < passLimit s maxPasses)
    (present : ∀ place ∈ places, place < f.records.length)
    (known : ∀ r ∈ places.filterMap (f.records[·]?), r.kind.name ∈ order) :
    ∃ turns, Turns s (some (names.getD places)) turns f (f.converge s names places maxPasses order).2 ∧
      match (f.converge s names places maxPasses order).1 with
      | .error halt => Explains s turns halt
      | .ok found => Faultless turns ∧ f.Delivered places found := by
  obtain ⟨turns, hturns, houtcome⟩ := passesByKind_report s (some (names.getD places)) (passLimit s maxPasses)
    (nodup_numbered places) order [] f
  rw [converge_eq s names maxPasses known]
  refine ⟨turns, ?_⟩
  split
  · next halt g hp =>
    rw [hp] at hturns houtcome
    exact ⟨hturns, houtcome⟩
  · next results g hp =>
    rw [hp] at hturns houtcome
    obtain ⟨hfaultless, hgiven⟩ := houtcome
    have hreports : ∀ e ∈ numbered places, f.Reports results e := fun e he =>
      hgiven e he (Or.inr ⟨allowed, exists_kindAt?_of_known present known he⟩)
    obtain ⟨found, hfound, hdelivered⟩ := collect_delivers hreports
    rw [map_snd_numbered] at hdelivered
    refine ⟨hturns, ?_⟩
    dsimp only
    rw [hfound]
    exact ⟨hfaultless, hdelivered⟩

/-- **When a convergence delivers.** Let records of known kinds be converged, whatever the setup, the limit asked
for and the order, in which kinds can be repeated. The convergence is a run of turns, and a fault of a turn is the
fault of the convergence. If no turn ends in a fault, it gives one result of every record, in the order of the
records, exactly if a pass is allowed and there is a slot, or there are no records. Otherwise nothing is done: where
a pass is allowed, it waits for a slot and never ends, and where none is, it fails for want of a result of the first
record. -/
theorem converge_delivers_iff (s : Setup) (names : Option Places) {places : Places} (maxPasses : Option Int)
    {order : List String} {f : Fleet} (present : ∀ place ∈ places, place < f.records.length)
    (known : ∀ r ∈ places.filterMap (f.records[·]?), r.kind.name ∈ order) :
    ∃ turns, Turns s (some (names.getD places)) turns f (f.converge s names places maxPasses order).2 ∧
      (¬Faultless turns →
        ∃ t ∈ turns, ∃ fault, t.outcome = .error fault ∧
          (f.converge s names places maxPasses order).1 = .error (.fault fault)) ∧
      (Faultless turns →
        if places = [] ∨ 0 < passLimit s maxPasses ∧ 0 < s.maxConcurrent then
          ∃ found, (f.converge s names places maxPasses order).1 = .ok found ∧ f.Delivered places found
        else if 0 < passLimit s maxPasses then
          f.converge s names places maxPasses order = (.error .stalled, f)
        else f.converge s names places maxPasses order = (.error (.fault (.missingKey (.int 0))), f)) := by
  -- where nothing is done there is no turn, so none ends in a fault
  have hidle : ¬¬Faultless [] := fun h => h (List.forall_mem_nil _)
  by_cases hplaces : places = []
  · subst hplaces
    rw [converge_nil, if_pos (Or.inl rfl)]
    exact ⟨[], .nil f, fun h => absurd h hidle, fun _ => ⟨[], rfl, .nil⟩⟩
  have hidles (h : ¬(0 < passLimit s maxPasses ∧ 0 < s.maxConcurrent)) :
      ¬(places = [] ∨ 0 < passLimit s maxPasses ∧ 0 < s.maxConcurrent) := not_or.mpr ⟨hplaces, h⟩
  by_cases hlimit : 0 < passLimit s maxPasses
  · by_cases slot : 0 < s.maxConcurrent
    · obtain ⟨turns, hturns, houtcome⟩ := converge_with_pass s names hlimit present known
      refine ⟨turns, hturns, ?_⟩
      rw [if_pos (Or.inr ⟨hlimit, slot⟩)]
      cases hconverge : (f.converge s names places maxPasses order).1 with
      | error halt =>
        rw [hconverge] at houtcome
        cases halt with
        | stalled => exact absurd slot (Int.not_lt.mpr houtcome)
        | fault fault =>
          obtain ⟨t, ht, hfault⟩ := houtcome
          refine ⟨fun _ => ⟨t, ht, fault, hfault, rfl⟩, fun hfaultless => ?_⟩
          obtain ⟨result, hresult⟩ := hfaultless t ht
          rw [hfault] at hresult
          cases hresult
      | ok found =>
        rw [hconverge] at houtcome
        exact ⟨fun h => absurd houtcome.1 h, fun _ => ⟨found, rfl, houtcome.2⟩⟩
    · rw [if_neg (hidles fun h => slot h.2), if_pos hlimit,
        converge_without_slot names hplaces hlimit (Int.not_lt.mp slot) present known]
      exact ⟨[], .nil f, fun h => absurd h hidle, fun _ => rfl⟩
  · rw [if_neg (hidles fun h => hlimit h.1), if_neg hlimit,
      converge_without_pass s names hplaces (Nat.eq_zero_of_not_pos hlimit) known]
    exact ⟨[], .nil f, fun h => absurd h hidle, fun _ => rfl⟩

/-- The convergence of an unsettled fleet delivers, also after a failure. -/
theorem converge_delivers_iff_unsettled :
    let s := Setup.ofClient ⟨"http://db", "", 30⟩
    let order := Kind.all.map Kind.name
    (∀ place ∈ [0, 1], place < unsettled.records.length) ∧
      (∀ r ∈ [0, 1].filterMap (unsettled.records[·]?), r.kind.name ∈ order) ∧
      0 < passLimit s none ∧ 0 < s.maxConcurrent ∧
      ∃ turns, Turns s (some [0, 1]) turns unsettled (unsettled.converge s none [0, 1] none order).2 ∧
        Faultless turns ∧
        ∃ found, (unsettled.converge s none [0, 1] none order).1 = .ok found ∧
          unsettled.Delivered [0, 1] found := by
  intro s order
  have present : ∀ place ∈ [0, 1], place < unsettled.records.length := by decide
  have known : ∀ r ∈ [0, 1].filterMap (unsettled.records[·]?), r.kind.name ∈ order := by decide +kernel
  have allowed : 0 < passLimit s none := by decide
  have slot : 0 < s.maxConcurrent := by decide
  have hok : (unsettled.converge s none [0, 1] none order).1.isOk = true := by decide +kernel
  obtain ⟨turns, hturns, hfault, hdelivers⟩ := converge_delivers_iff s none none present known
  have hfaultless : Faultless turns := by
    by_contra h
    obtain ⟨-, -, fault, -, herror⟩ := hfault h
    rw [herror] at hok
    cases hok
  have hfound := hdelivers hfaultless
  rw [if_pos (Or.inr ⟨allowed, slot⟩)] at hfound
  exact ⟨present, known, allowed, slot, turns, hturns, hfaultless, hfound⟩

/-- An organization, on a server where it is as it should be. -/
def settled : Fleet :=
  let found := Answer.ofValue (.object [("orgs", .list [.object [("id", .text "o1"), ("name", .text "acme")]])])
  ⟨[.ofName "acme" (.organization ⟨none⟩ .empty)], .ofAnswers [found], []⟩

/-- The number of passes that is set, or asked for, is not checked. Without a pass, one result of one
organization is not delivered. Nor is it without a slot, which can be set as well: then the convergence never ends. -/
theorem converge_fails_without_pass :
    let client : Client := ⟨"http://db", "", 30⟩
    let order := Kind.all.map Kind.name
    let usual : Setup := ⟨client, Kind.all, 5, 5⟩
    let delivered : Result := ⟨.organization, "acme", true, .nothing, "", false⟩
    (∃ work, WorkSettings.ofEnvironment [("MAX_RECONCILE_PASSES", "0")] = .ok work ∧
      (settled.converge ⟨client, Kind.all, work.maxPasses, work.maxConcurrent⟩ none [0] none order).1
        = .error (.fault (.missingKey (.int 0)))) ∧
      (settled.converge usual none [0] (some (-1)) order).1 = .error (.fault (.missingKey (.int 0))) ∧
      (∃ work, WorkSettings.ofEnvironment [("MAX_CONCURRENT_RECONCILES", "0")] = .ok work ∧
        (settled.converge ⟨client, Kind.all, work.maxPasses, work.maxConcurrent⟩ none [0] none order).1
          = .error .stalled) ∧
      (settled.converge usual none [0] none order).1 = .ok [delivered] := by
  intro client order usual delivered
  exact ⟨⟨⟨5, 0⟩, by decide +kernel, by decide +kernel⟩, by decide +kernel,
    ⟨⟨0, 5⟩, by decide +kernel, by decide +kernel⟩, by decide +kernel⟩

end Fleet

end InfluxKeeper
