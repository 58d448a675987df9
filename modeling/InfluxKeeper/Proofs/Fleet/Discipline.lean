import InfluxKeeper.Proofs.Fleet.Passes

/-!
# The discipline of a convergence

A convergence takes the kinds in their order, and the records of a kind pass after pass.

> `converge_disciplined`: a convergence of records of known kinds is a run of turns. It ends in a fault only
> if a turn did, and waits for ever only without a slot. Otherwise the turns are `Disciplined`, and the results are
> those of the last turns, in the order of the records. A record of an unknown kind is refused before anything is
> done.

The kind of a record is settled for good (`Turns.phase`), so its turns are all in the passes of its own kind,
and what is known of these (`passes_turns`) is known of it.
-/

namespace InfluxKeeper

open Api

namespace Fleet

variable {s : Setup} {names : Option Places}

/-! ## Kind after kind -/

/-- The kind of the record at a place. -/
def kindAt? (f : Fleet) (place : Nat) : Option Kind := (f.records[place]?).map Record.kind

theorem Turns.kindAt? {turns : List Turn} {f f' : Fleet} (h : Turns s names turns f f') (place : Nat) :
    f'.kindAt? place = f.kindAt? place := by
  have hcard := congrArg (Option.map (·.1)) (h.card place)
  rw [Option.map_map, Option.map_map] at hcard
  exact hcard

/-- When in an order of kinds the record at a place is taken: at the position of its kind, or never. -/
def phase (order : List String) (f : Fleet) (place : Nat) : Nat :=
  (f.kindAt? place).elim order.length fun k => order.idxOf k.name

theorem Turns.phase {turns : List Turn} {f f' : Fleet} (h : Turns s names turns f f')
    (order : List String) (place : Nat) : f'.phase order place = f.phase order place := by
  unfold Fleet.phase
  rw [h.kindAt?]

/-- What the first kind of an order is of, comes first. -/
theorem phase_cons_eq_zero (kind : String) (rest : List String) (f : Fleet) (place : Nat) :
    f.phase (kind :: rest) place = 0 ↔ (f.records[place]?).any (·.kind.name = kind) = true := by
  unfold phase kindAt?
  cases f.records[place]? with
  | none => simp
  | some r =>
    by_cases h : kind = r.kind.name
    · simp [h]
    · have hb : (kind == r.kind.name) = false := by simpa using h
      simp [List.idxOf_cons, hb, Ne.symm h]

/-- The other kinds come in their own order. -/
theorem phase_cons_of_ne {kind : String} {rest : List String} {f : Fleet} {place : Nat}
    (h : f.phase (kind :: rest) place ≠ 0) :
    f.phase (kind :: rest) place = f.phase rest place + 1 := by
  rw [Ne, phase_cons_eq_zero] at h
  unfold phase kindAt?
  cases hr : f.records[place]? with
  | none => rfl
  | some r =>
    rw [hr] at h
    have hne : kind ≠ r.kind.name := fun heq => h (by simp [heq])
    exact List.idxOf_cons_ne rest hne

/-- A kind that is in an order once has no place in the rest. -/
theorem phase_of_first {kind : String} {rest : List String} (hk : kind ∉ rest) {f : Fleet} {place : Nat}
    (h : f.phase (kind :: rest) place = 0) : f.phase rest place = rest.length := by
  rw [phase_cons_eq_zero] at h
  unfold phase kindAt?
  cases hr : f.records[place]? with
  | none => rfl
  | some r =>
    rw [hr] at h
    have heq : r.kind.name = kind := by simpa using h
    exact List.idxOf_eq_length (heq ▸ hk)

/-- The passes over the first kind of an order are turns of its records, and other records have none. -/
theorem firstKind_turns (s : Setup) (names : Option Places) (limit : Nat) {numbered : List (Nat × Nat)}
    (distinct : (numbered.map (·.2)).Nodup) (unique : (numbered.map (·.1)).Nodup)
    (kind : String) (rest : List String) (results : Results) (f : Fleet) {pending : List (Nat × Nat)}
    (hpending : pending = numbered.filter fun e => (f.records[e.2]?).any (·.kind.name = kind)) :
    ∃ turns, Turns s names turns f (passes s names limit pending results f).2 ∧
      (∀ t ∈ turns, t.place ∈ numbered.map (·.2) ∧ f.phase (kind :: rest) t.place = 0) ∧
      match (passes s names limit pending results f).1 with
      | .error halt => Explains s turns halt
      | .ok results' => Faultless turns ∧ ∀ e ∈ numbered,
        (f.phase (kind :: rest) e.2 = 0 → Paced limit (turnsAt e.2 turns)) ∧
          results'.lookup e.1 = told (results.lookup e.1) (turnsAt e.2 turns) := by
  have hmem {e : Nat × Nat} : e ∈ pending ↔ e ∈ numbered ∧ f.phase (kind :: rest) e.2 = 0 := by
    rw [hpending, List.mem_filter, phase_cons_eq_zero]
  have hsub : pending.Sublist numbered := hpending ▸ List.filter_sublist
  obtain ⟨turns, hturns, hplaces, houtcome⟩ := passes_turns s names limit
    ((hsub.map (·.2)).nodup distinct) ((hsub.map (·.1)).nodup unique) results f
  have hwithin (t : Turn) (ht : t ∈ turns) :
      t.place ∈ numbered.map (·.2) ∧ f.phase (kind :: rest) t.place = 0 := by
    obtain ⟨e, he, hplace⟩ := List.mem_map.mp (hplaces t ht)
    obtain ⟨hn, hp⟩ := hmem.mp he
    exact hplace ▸ ⟨List.mem_map_of_mem hn, hp⟩
  refine ⟨turns, hturns, hwithin, ?_⟩
  revert houtcome
  rcases (passes s names limit pending results f).1 with halt | results'
  · exact id
  intro hpassed
  refine ⟨hpassed.faultless, fun e he => ?_⟩
  by_cases hphase : f.phase (kind :: rest) e.2 = 0
  · have hp : e ∈ pending := hmem.mpr ⟨he, hphase⟩
    exact ⟨fun _ => hpassed.paced e hp, hpassed.latest e hp⟩
  · have hnone : turnsAt e.2 turns = [] := turnsAt_eq_nil fun t ht hplace =>
      hphase (hplace ▸ (hwithin t ht).2)
    have hnumber : e.1 ∉ pending.map (·.1) := fun h => by
      obtain ⟨x, hx, hxe⟩ := List.mem_map.mp h
      exact hphase (List.inj_on_of_nodup_map unique (hmem.mp hx).1 he hxe ▸ (hmem.mp hx).2)
    rw [hnone, hpassed.kept e.1 hnumber]
    exact ⟨fun h => absurd h hphase, rfl⟩

/-- The passes over kind after kind are turns of their records, kind by kind in the order given. The turns
of each record are paced, and the result under its number is that of the last one. -/
theorem passesByKind_turns (s : Setup) (names : Option Places) (limit : Nat) {numbered : List (Nat × Nat)}
    (distinct : (numbered.map (·.2)).Nodup) (unique : (numbered.map (·.1)).Nodup)
    {order : List String} (unrepeated : order.Nodup) (results : Results) (f : Fleet) :
    ∃ turns, Turns s names turns f (passesByKind s names limit numbered order results f).2 ∧
      (∀ t ∈ turns, t.place ∈ numbered.map (·.2) ∧ f.phase order t.place < order.length) ∧
      turns.Pairwise (fun t u => f.phase order t.place ≤ f.phase order u.place) ∧
      match (passesByKind s names limit numbered order results f).1 with
      | .error halt => Explains s turns halt
      | .ok results' => Faultless turns ∧ ∀ e ∈ numbered,
        (f.phase order e.2 < order.length → Paced limit (turnsAt e.2 turns)) ∧
          results'.lookup e.1 = told (results.lookup e.1) (turnsAt e.2 turns) := by
  induction order generalizing results f with
  | nil => exact ⟨[], .nil f, by simp, .nil, by simp [Faultless],
      fun _ _ => ⟨fun h => absurd h (Nat.not_lt_zero _), rfl⟩⟩
  | cons kind rest ih =>
    obtain ⟨hkind, hrest⟩ := List.nodup_cons.mp unrepeated
    obtain ⟨turns, hturns, hfirst, houtcome⟩ :=
      firstKind_turns s names limit distinct unique kind rest results f rfl
    have hplaced (t : Turn) (ht : t ∈ turns) :
        t.place ∈ numbered.map (·.2) ∧ f.phase (kind :: rest) t.place < (kind :: rest).length :=
      ⟨(hfirst t ht).1, (hfirst t ht).2 ▸ Nat.zero_lt_succ _⟩
    have hbefore (u : Turn) (t : Turn) (ht : t ∈ turns) :
        f.phase (kind :: rest) t.place ≤ f.phase (kind :: rest) u.place :=
      (hfirst t ht).2 ▸ Nat.zero_le _
    have hpairwise : turns.Pairwise fun t u =>
        f.phase (kind :: rest) t.place ≤ f.phase (kind :: rest) u.place :=
      List.pairwise_of_forall_mem_list fun t ht u _ => hbefore u t ht
    unfold passesByKind
    dsimp only
    split
    · -- passes without results are the last ones, also of the other kinds
      next halt g hp =>
      rw [hp] at hturns houtcome
      exact ⟨turns, hturns, hplaced, hpairwise, houtcome⟩
    next results' g hp =>
    rw [hp] at hturns houtcome
    obtain ⟨more, hmore, hwithin, hordered, hresults⟩ := ih hrest results' g
    simp only [hturns.phase] at hwithin hordered hresults
    -- a record that has turns in the passes to come is of a kind of the rest
    have hlater (t : Turn) (ht : t ∈ more) :
        f.phase (kind :: rest) t.place = f.phase rest t.place + 1 :=
      phase_cons_of_ne fun h => absurd (phase_of_first hkind h) (Nat.ne_of_lt (hwithin t ht).2)
    refine ⟨turns ++ more, hturns.append hmore, ?_, ?_, ?_⟩
    · intro t ht
      rcases List.mem_append.mp ht with ht | ht
      · exact hplaced t ht
      · exact ⟨(hwithin t ht).1, (hlater t ht).symm ▸ Nat.succ_lt_succ (hwithin t ht).2⟩
    · refine List.pairwise_append.mpr ⟨hpairwise, ?_, fun t ht u _ => hbefore u t ht⟩
      refine hordered.imp_of_mem fun ht hu h => ?_
      rw [hlater _ ht, hlater _ hu]
      exact Nat.succ_le_succ h
    revert hresults
    rcases (passesByKind s names limit numbered rest results' g).1 with halt | results''
    · exact fun hexplains => hexplains.append turns
    rintro ⟨hfaultless, hresults⟩
    refine ⟨houtcome.1.append hfaultless, fun e he => ?_⟩
    obtain ⟨hfirstPaced, hfirstTold⟩ := houtcome.2 e he
    obtain ⟨hpaced, htold⟩ := hresults e he
    rw [turnsAt_append, htold, hfirstTold, told_append]
    refine ⟨fun h => ?_, rfl⟩
    by_cases hphase : f.phase (kind :: rest) e.2 = 0
    · -- a record of this kind has no turns after
      have hnone : turnsAt e.2 more = [] := turnsAt_eq_nil fun t ht hplace =>
        absurd (phase_of_first hkind hphase) (Nat.ne_of_lt (hplace ▸ (hwithin t ht).2))
      rw [hnone, List.append_nil]
      exact hfirstPaced hphase
    · -- a record of another kind has had none before
      have hnone : turnsAt e.2 turns = [] := turnsAt_eq_nil fun t ht hplace =>
        hphase (hplace ▸ (hfirst t ht).2)
      rw [hnone, List.nil_append]
      rw [phase_cons_of_ne hphase] at h
      exact hpaced (Nat.lt_of_succ_lt_succ h)

/-- Without a slot the passes over kind after kind wait at the first record of these kinds, and nothing is
done. -/
theorem passesByKind_of_no_slot (none_free : s.maxConcurrent ≤ 0) (names : Option Places) (limit : Nat)
    (numbered : List (Nat × Nat)) (order : List String) (results : Results) (f : Fleet) :
    (passesByKind s names limit numbered order results f = (.error .stalled, f) ∧ 0 < limit) ∨
      (passesByKind s names limit numbered order results f = (.ok results, f) ∧
        (limit = 0 ∨ ∀ e ∈ numbered, ∀ k, f.kindAt? e.2 = some k → k.name ∉ order)) := by
  induction order with
  | nil => exact Or.inr ⟨rfl, Or.inr fun _ _ _ _ => List.not_mem_nil⟩
  | cons kind rest ih =>
    unfold passesByKind
    dsimp only
    cases limit with
    | zero =>
      rcases ih with ⟨-, hlimit⟩ | ⟨hrest, -⟩
      · exact absurd hlimit (Nat.lt_irrefl 0)
      · exact Or.inr ⟨hrest, Or.inl rfl⟩
    | succ limit =>
      by_cases hpending : numbered.filter (fun e => (f.records[e.2]?).any (·.kind.name = kind)) = []
      · -- no record is of the first kind
        have hnone : ∀ e ∈ numbered, ∀ k, f.kindAt? e.2 = some k → k.name ≠ kind := by
          intro e he k hk hname
          obtain ⟨r, hr, rfl⟩ := Option.map_eq_some_iff.mp hk
          refine List.filter_eq_nil_iff.mp hpending e he ?_
          rw [hr]
          exact decide_eq_true hname
        rw [hpending]
        show (passesByKind s names (limit + 1) numbered rest results f = _ ∧ _) ∨
          (passesByKind s names (limit + 1) numbered rest results f = _ ∧ _)
        rcases ih with hstalled | ⟨hrest, hothers⟩
        · exact Or.inl hstalled
        · refine Or.inr ⟨hrest, hothers.imp id fun hothers e he k hk hmem => ?_⟩
          rcases List.mem_cons.mp hmem with hname | hmem
          · exact hnone e he k hk hname
          · exact hothers e he k hk hmem
      · have hstalled := passes_succ s names limit hpending results f
        rw [reconcileAll_of_no_slot none_free names (mt List.map_eq_nil_iff.mp hpending)] at hstalled
        rw [hstalled]
        exact Or.inl ⟨rfl, Nat.succ_pos limit⟩

/-! ## Deletions -/

end Fleet

/-- What a turn deletes. -/
def Turn.deletions (t : Turn) : List Request := t.requests.filter (·.method = Mutation.delete.method)

namespace Fleet

/-- A turn deletes once at most, and not at all if it created or updated something. -/
theorem Turns.deletions {turns : List Turn} {f f' : Fleet} (h : Turns s names turns f f') {t : Turn}
    (ht : t ∈ turns) : t.deletions.length ≤ 1 ∧ (t.Changed → t.deletions = []) := by
  obtain ⟨before, after, g, g', -, -, hturn, -⟩ := h.of_mem ht
  unfold Turn.deletions
  cases hr : g.records[t.place]? with
  | none => rw [hturn.of_none hr]; exact ⟨Nat.zero_le 1, fun _ => rfl⟩
  | some r =>
    obtain ⟨houtcome, hrequests, -⟩ := hturn.of_some hr
    rw [hrequests]
    refine ⟨Work.length_filter_requests_le (g.work r) .delete, ?_⟩
    rintro ⟨result, hok, -, haction⟩
    refine List.filter_eq_nil_iff.mpr fun q hq hmethod => ?_
    have hmethod := of_decide_eq_true hmethod
    have hran := Prod.fst_eq_iff.mp (hok ▸ houtcome).symm
    rcases haction with hcreated | hupdated
    · cases Work.method_of_action hran hcreated hq hmethod
    · cases Work.method_of_action hran hupdated hq hmethod

/-- A record is deleted once at most: only its last turn may do it. -/
theorem Paced.length_deletions_le {limit : Nat} {turns : List Turn} (h : Paced limit turns)
    (hd : ∀ t ∈ turns, t.deletions.length ≤ 1 ∧ (t.Changed → t.deletions = [])) :
    (turns.flatMap (·.deletions)).length ≤ 1 := by
  induction limit generalizing turns with
  | zero => rw [show turns = [] from h]; exact Nat.zero_le 1
  | succ limit ih =>
    cases turns with
    | nil => exact Nat.zero_le 1
    | cons t rest =>
      obtain ⟨hone, hnone⟩ := hd t List.mem_cons_self
      rw [List.flatMap_cons]
      by_cases hc : t.Changed
      · rw [hnone hc]
        exact ih (h.1 hc) fun u hu => hd u (List.mem_cons_of_mem t hu)
      · rw [h.2 hc, List.flatMap_nil, List.append_nil]
        exact hone

/-! ## The convergence -/

/-- Turns as a convergence should take them: of the records at the places given, in the order of the kinds,
each record at least once and up to a limit, again exactly if its last turn created or updated something and
the limit allows it, and with one deletion at most. -/
structure Disciplined (f : Fleet) (places : Places) (order : List String) (limit : Nat)
    (turns : List Turn) : Prop where
  within : ∀ t ∈ turns, t.place ∈ places
  ordered : turns.Pairwise fun t u => f.phase order t.place ≤ f.phase order u.place
  started : ∀ place ∈ places, 1 ≤ (turnsAt place turns).length
  bounded : ∀ place ∈ places, (turnsAt place turns).length ≤ limit
  again : ∀ place ∈ places, ∀ k t, (turnsAt place turns)[k]? = some t →
    (k + 1 < (turnsAt place turns).length ↔ k + 1 < limit ∧ t.Changed)
  deletes : ∀ place ∈ places, ((turnsAt place turns).flatMap (·.deletions)).length ≤ 1

/-- A place of a record of a known kind has a phase. -/
theorem phase_lt {order : List String} {f : Fleet} {place : Nat} {r : Record}
    (hr : f.records[place]? = some r) (hk : r.kind.name ∈ order) :
    f.phase order place < order.length := by
  unfold phase kindAt?
  rw [hr]
  exact List.idxOf_lt_length_of_mem hk

/-- Places, numbered in the order of a list. -/
def numbered (places : Places) : List (Nat × Nat) := places.zipIdx.map fun e => (e.2, e.1)

theorem mem_numbered {places : Places} {number place : Nat} :
    (number, place) ∈ numbered places ↔ places[number]? = some place := by
  unfold numbered
  rw [← List.mk_mem_zipIdx_iff_getElem?, List.mem_map]
  exact ⟨fun ⟨e, he, heq⟩ => by cases heq; exact he, fun h => ⟨_, h, rfl⟩⟩

theorem getElem?_numbered (places : Places) (number : Nat) :
    (numbered places)[number]? = (places[number]?).map fun place => (number, place) := by
  unfold numbered
  rw [List.getElem?_map, List.getElem?_zipIdx, Option.map_map, Nat.zero_add]
  rfl

theorem pairwise_numbered (places : Places) : (numbered places).Pairwise fun a b => a.1 < b.1 := by
  unfold numbered
  rw [List.pairwise_map, ← List.pairwise_map (f := Prod.snd) (R := (· < ·)), List.zipIdx_map_snd]
  exact List.pairwise_lt_range' 1

theorem map_snd_numbered (places : Places) : (numbered places).map (·.2) = places := by
  unfold numbered
  rw [List.map_map]
  exact List.zipIdx_map_fst 0 places

theorem nodup_numbered (places : Places) : ((numbered places).map (·.1)).Nodup :=
  List.pairwise_map.mpr ((pairwise_numbered places).imp Nat.ne_of_lt)

/-- A convergence of records of known kinds numbers their places, makes its passes over them, and collects the
results. -/
theorem converge_eq (s : Setup) (names : Option Places) {places : Places} (maxPasses : Option Int)
    {order : List String} {f : Fleet} (known : ∀ r ∈ places.filterMap (f.records[·]?), r.kind.name ∈ order) :
    f.converge s names places maxPasses order =
      match passesByKind s (some (names.getD places)) (passLimit s maxPasses) (numbered places) order [] f with
      | (.error halt, f) => (.error halt, f)
      | (.ok results, f) => ((collect results ((numbered places).map (·.1))).mapError .fault, f) := by
  have hnone : (places.filterMap (f.records[·]?)).find? (fun r => r.kind.name ∉ order) = none :=
    List.find?_eq_none.mpr fun r hr h => of_decide_eq_true h (known r hr)
  unfold converge
  split
  · next r hr =>
    rw [hnone] at hr
    cases hr
  · rfl

theorem converge_of_known (s : Setup) (names : Option Places) {places : Places} (maxPasses : Option Int)
    {order : List String} {f : Fleet} (known : ∀ r ∈ places.filterMap (f.records[·]?), r.kind.name ∈ order) :
    ∃ numbered : List (Nat × Nat), numbered.map (·.2) = places ∧ (numbered.map (·.1)).Nodup ∧
      f.converge s names places maxPasses order =
        match passesByKind s (some (names.getD places)) (passLimit s maxPasses) numbered order [] f with
        | (.error halt, f) => (.error halt, f)
        | (.ok results, f) => ((collect results (numbered.map (·.1))).mapError .fault, f) :=
  ⟨numbered places, map_snd_numbered places, nodup_numbered places, converge_eq s names maxPasses known⟩

/-- Without a slot a convergence does nothing. -/
theorem converge_of_no_slot (none_free : s.maxConcurrent ≤ 0) (names : Option Places) (places : Places)
    (maxPasses : Option Int) (order : List String) (f : Fleet) :
    (f.converge s names places maxPasses order).2 = f := by
  unfold converge
  dsimp only
  split
  · rfl
  · rcases passesByKind_of_no_slot none_free (some (names.getD places)) (passLimit s maxPasses)
      (places.zipIdx.map fun e => (e.2, e.1)) order [] f with ⟨hpasses, -⟩ | ⟨hpasses, -⟩
    · rw [hpasses]
    · rw [hpasses]

/-- A convergence of records of known kinds is a run of turns of its records, kind by kind. -/
theorem converge_ordered (s : Setup) (names : Option Places) {places : Places} (maxPasses : Option Int)
    {order : List String} {f : Fleet} (distinct : places.Nodup) (unrepeated : order.Nodup)
    (known : ∀ r ∈ places.filterMap (f.records[·]?), r.kind.name ∈ order) :
    ∃ turns, Turns s (some (names.getD places)) turns f (f.converge s names places maxPasses order).2 ∧
      (∀ t ∈ turns, t.place ∈ places) ∧
      turns.Pairwise fun t u => f.phase order t.place ≤ f.phase order u.place := by
  obtain ⟨numbered, hplaces, hnumbers, hconverge⟩ := converge_of_known s names maxPasses known
  obtain ⟨turns, hturns, hwithin, hordered, -⟩ :=
    passesByKind_turns s (some (names.getD places)) (passLimit s maxPasses)
      (hplaces.symm ▸ distinct) hnumbers unrepeated [] f
  rw [hconverge]
  refine ⟨turns, ?_, fun t ht => hplaces ▸ (hwithin t ht).1, hordered⟩
  split <;> next hp => rw [hp] at hturns; exact hturns

/-- A convergence of records of known kinds is a run of disciplined turns, unless one of them ended in a
fault or there is no slot for them, and its results are those of the last turns. -/
theorem converge_turns (names : Option Places) {places : Places} {maxPasses : Option Int} {order : List String}
    {f : Fleet} (distinct : places.Nodup) (present : ∀ place ∈ places, place < f.records.length)
    (unrepeated : order.Nodup) (allowed : 1 ≤ passLimit s maxPasses)
    (known : ∀ r ∈ places.filterMap (f.records[·]?), r.kind.name ∈ order) :
    ∃ turns, Turns s (some (names.getD places)) turns f (f.converge s names places maxPasses order).2 ∧
      match (f.converge s names places maxPasses order).1 with
      | .error halt => Explains s turns halt
      | .ok results => Faultless turns ∧ Disciplined f places order (passLimit s maxPasses) turns ∧
        results.map some = places.map fun place => lastResult? (turnsAt place turns) := by
  obtain ⟨numbered, hplaces, hnumbers, hconverge⟩ := converge_of_known s names maxPasses known
  rw [hconverge]
  obtain ⟨turns, hturns, hwithin, hordered, houtcome⟩ :=
    passesByKind_turns s (some (names.getD places)) (passLimit s maxPasses)
      (hplaces.symm ▸ distinct) hnumbers unrepeated [] f
  rcases hp : passesByKind s (some (names.getD places)) (passLimit s maxPasses) numbered order [] f
    with ⟨halt | results, g⟩
  · rw [hp] at hturns houtcome
    exact ⟨turns, hturns, houtcome⟩
  rw [hp] at hturns houtcome
  obtain ⟨hfaultless, hresults⟩ := houtcome
  have hpaced (place : Nat) (h : place ∈ places) :
      Paced (passLimit s maxPasses) (turnsAt place turns) := by
    have hr := List.getElem?_eq_getElem (present place h)
    have hknown := known _ (List.mem_filterMap.mpr ⟨place, h, hr⟩)
    obtain ⟨e, he, rfl⟩ := List.mem_map.mp (hplaces ▸ h)
    exact (hresults e he).1 (phase_lt hr hknown)
  obtain ⟨found, hfound, hmap⟩ := collect_ok results numbered
    (fun place => lastResult? (turnsAt place turns)) fun e he =>
      have hplace : e.2 ∈ places := hplaces ▸ List.mem_map_of_mem he
      ⟨(hresults e he).2.trans (told_none _),
        hfaultless.isSome_lastResult? ((hpaced e.2 hplace).one_le_length allowed)⟩
  rw [hplaces] at hmap
  refine ⟨turns, hturns, ?_⟩
  dsimp only
  rw [hfound]
  refine ⟨hfaultless, ?_, hmap⟩
  exact {
    within := fun t ht => hplaces ▸ (hwithin t ht).1
    ordered := hordered
    started := fun place h => (hpaced place h).one_le_length allowed
    bounded := fun place h => (hpaced place h).length_le
    again := fun place h _ _ ht => (hpaced place h).next_iff ht
    deletes := fun place h => (hpaced place h).length_deletions_le fun t ht =>
      hturns.deletions (List.mem_filter.mp ht).1 }

/-- A convergence with a record of an unknown kind is refused before anything is done. -/
theorem converge_of_unknown {places : Places} (maxPasses : Option Int) {order : List String} {f : Fleet}
    (unknown : ∃ r ∈ places.filterMap (f.records[·]?), r.kind.name ∉ order) :
    ∃ r ∈ places.filterMap (f.records[·]?), r.kind.name ∉ order ∧
      f.converge s names places maxPasses order =
        (.error (.fault (.badValue ("Unknown record kind: " ++ r.kind.name))), f) := by
  obtain ⟨r, hr, hunknown⟩ := unknown
  cases hfind : (places.filterMap (f.records[·]?)).find? (fun r => r.kind.name ∉ order) with
  | none => exact absurd hunknown (by simpa using List.find?_eq_none.mp hfind r hr)
  | some r' =>
    have hr' := List.find?_some hfind
    refine ⟨r', List.mem_of_find?_eq_some hfind, of_decide_eq_true hr', ?_⟩
    unfold converge
    rw [hfind]

/-- **A convergence is disciplined.** Over different records of known kinds, with at least one pass, it is a
run of turns that are as they should be, and its results are those of the last turns, in the order of the
records; it ends in a fault only if a turn does, and it waits for ever only without a slot, with nothing done. With
a record of an unknown kind it is refused before anything is done. -/
theorem converge_disciplined (s : Setup) (names : Option Places) (places : Places)
    (maxPasses : Option Int) (order : List String) (f : Fleet) :
    (places.Nodup → (∀ place ∈ places, place < f.records.length) → order.Nodup →
      1 ≤ passLimit s maxPasses → (∀ r ∈ places.filterMap (f.records[·]?), r.kind.name ∈ order) →
      ∃ turns, Turns s (some (names.getD places)) turns f (f.converge s names places maxPasses order).2 ∧
        match (f.converge s names places maxPasses order).1 with
        | .error (.fault fault) => ∃ t ∈ turns, t.outcome = .error fault
        | .error .stalled =>
          s.maxConcurrent ≤ 0 ∧ (f.converge s names places maxPasses order).2 = f
        | .ok results => Faultless turns ∧ Disciplined f places order (passLimit s maxPasses) turns ∧
          results.map some = places.map fun place => lastResult? (turnsAt place turns)) ∧
    ((∃ r ∈ places.filterMap (f.records[·]?), r.kind.name ∉ order) →
      ∃ r ∈ places.filterMap (f.records[·]?), r.kind.name ∉ order ∧
        f.converge s names places maxPasses order =
          (.error (.fault (.badValue ("Unknown record kind: " ++ r.kind.name))), f)) := by
  refine ⟨fun distinct present unrepeated allowed known => ?_, converge_of_unknown maxPasses⟩
  obtain ⟨turns, hturns, hended⟩ := converge_turns names distinct present unrepeated allowed known
  refine ⟨turns, hturns, ?_⟩
  have hidle := fun none_free => converge_of_no_slot (s := s) none_free names places maxPasses order f
  revert hended
  rcases (f.converge s names places maxPasses order).1 with (fault | _) | results
  · exact id
  · exact fun none_free => ⟨none_free, hidle none_free⟩
  · exact id

/-- A bucket, and an organization that is absent at first, on a server that fails to look the bucket up. -/
def unsettled : Fleet :=
  ⟨[.ofName "logs" (.bucket .empty .empty), .ofName "acme" (.organization ⟨none⟩ .empty)],
    .ofAnswers [.response 404 "", .response 201 "",
      .ofValue (.object [("orgs", .list [.object [("id", .text "o1")]])]), .response 500 ""], []⟩

/-- The organization has two turns, the second one without a change, and then the bucket has its turn. -/
theorem converge_disciplined_unsettled :
    let s := Setup.ofClient ⟨"http://db", "", 30⟩
    let order := Kind.all.map Kind.name
    let results : List Result := [
      ⟨.bucket, "logs", false, .nothing, "cannot find bucket: HTTP 500: ", false⟩,
      ⟨.organization, "acme", true, .nothing, "", false⟩]
    (unsettled.converge s none [0, 1] none order).1 = .ok results ∧
      (∃ turns, Turns s (some [0, 1]) turns unsettled (unsettled.converge s none [0, 1] none order).2 ∧
        Faultless turns ∧ Disciplined unsettled [0, 1] order 5 turns ∧
        results.map some = [0, 1].map fun place => lastResult? (turnsAt place turns)) ∧
      ∃ r ∈ [0, 1].filterMap (unsettled.records[·]?), r.kind.name ∉ ["Bucket"] ∧
        unsettled.converge s none [0, 1] none ["Bucket"] =
          (.error (.fault (.badValue ("Unknown record kind: " ++ r.kind.name))), unsettled) := by
  intro s order results
  have hresults : (unsettled.converge s none [0, 1] none order).1 = .ok results := by decide +kernel
  obtain ⟨turns, hrun⟩ := (converge_disciplined s none [0, 1] none order unsettled).1
    (by decide) (by decide) (by decide +kernel) (by decide) (by decide +kernel)
  rw [hresults] at hrun
  exact ⟨hresults, ⟨turns, hrun⟩,
    (converge_disciplined s none [0, 1] none ["Bucket"] unsettled).2 (by decide +kernel)⟩

end Fleet

end InfluxKeeper
