import Mathlib.Data.List.Nodup
import InfluxKeeper.Proofs.Fleet.Turns

/-!
# Pass after pass

The records of a kind are reconciled pass after pass: every record is in the first pass, and in the next one
if its last turn changed something, up to a limit. `Paced` says so of the turns of one record.

> `passes_turns`: the turns of every pending record are paced, and the result under its number is that of
> the last of them.

The loop keeps a shrinking list of what is pending, and results under numbers. The invariant, `Passed`, speaks
of one record at a time. A pass gives every pending record one turn (`pass_turns`), at the front of those that
the passes to come give it; a record that is no longer pending gets none (`Passed.of_pass`).
-/

namespace InfluxKeeper

open Api

/-- A turn that created or updated something. -/
def Turn.Changed (t : Turn) : Prop :=
  ∃ r, t.outcome = .ok r ∧ r.success = true ∧ (r.action = .done .create ∨ r.action = .done .update)

theorem Turn.changed_iff {t : Turn} {r : Result} (h : t.outcome = .ok r) :
    t.Changed ↔ Fleet.changing r = true := by
  unfold Changed Fleet.changing
  rw [Bool.and_eq_true, Bool.or_eq_true, beq_iff_eq, beq_iff_eq, h]
  constructor
  · rintro ⟨r', hr, hdone⟩; cases hr; exact hdone
  · intro hdone; exact ⟨r, rfl, hdone⟩

namespace Fleet

variable {s : Setup} {names : Option Places}

/-! ## The turns of one record -/

/-- The turns of the record at a place, in their order. -/
def turnsAt (place : Nat) (turns : List Turn) : List Turn := turns.filter (·.place = place)

@[simp] theorem turnsAt_append (place : Nat) (turns more : List Turn) :
    turnsAt place (turns ++ more) = turnsAt place turns ++ turnsAt place more :=
  List.filter_append ..

theorem turnsAt_eq_nil {place : Nat} {turns : List Turn} (h : ∀ t ∈ turns, t.place ≠ place) :
    turnsAt place turns = [] :=
  List.filter_eq_nil_iff.mpr fun t ht => by simpa using h t ht

/-- A record that has one turn among turns of different records has just that. -/
theorem turnsAt_of_mem {turns : List Turn} {t : Turn} (distinct : (turns.map (·.place)).Nodup)
    (ht : t ∈ turns) : turnsAt t.place turns = [t] := by
  induction turns with
  | nil => cases ht
  | cons u rest ih =>
    rw [List.map_cons, List.nodup_cons] at distinct
    have hu (t : Turn) (ht : t ∈ rest) : t.place ≠ u.place := fun h =>
      distinct.1 (h ▸ List.mem_map_of_mem ht)
    unfold turnsAt
    rcases List.mem_cons.mp ht with rfl | hr
    · rw [List.filter_cons_of_pos (by simp)]
      exact congrArg (t :: ·) (turnsAt_eq_nil hu)
    · rw [List.filter_cons_of_neg (by simpa using (hu t hr).symm)]
      exact ih distinct.2 hr

/-- Turns of one record under a limit: another one follows a turn if that changed something and the limit
leaves one, and otherwise none does. -/
def Paced : Nat → List Turn → Prop
  | 0, turns => turns = []
  | _ + 1, [] => False
  | limit + 1, t :: rest => (t.Changed → Paced limit rest) ∧ (¬t.Changed → rest = [])

theorem Paced.length_le {limit : Nat} {turns : List Turn} (h : Paced limit turns) :
    turns.length ≤ limit := by
  induction limit generalizing turns with
  | zero => rw [show turns = [] from h]; exact Nat.zero_le 0
  | succ limit ih =>
    cases turns with
    | nil => exact Nat.zero_le _
    | cons t rest =>
      refine Nat.succ_le_succ ?_
      by_cases ht : t.Changed
      · exact ih (h.1 ht)
      · rw [h.2 ht]; exact Nat.zero_le limit

theorem Paced.one_le_length {limit : Nat} {turns : List Turn} (h : Paced limit turns)
    (hl : 1 ≤ limit) : 1 ≤ turns.length := by
  cases limit with
  | zero => exact absurd hl (by decide)
  | succ limit =>
    cases turns with
    | nil => exact absurd h id
    | cons t rest => exact Nat.succ_le_succ (Nat.zero_le _)

/-- Another turn follows exactly if the turn changed something and the limit leaves one. -/
theorem Paced.next_iff {limit : Nat} {turns : List Turn} (h : Paced limit turns) {k : Nat} {t : Turn}
    (ht : turns[k]? = some t) : k + 1 < turns.length ↔ k + 1 < limit ∧ t.Changed := by
  induction limit generalizing turns k with
  | zero => rw [show turns = [] from h] at ht; cases ht
  | succ limit ih =>
    cases turns with
    | nil => cases ht
    | cons u rest =>
      cases k with
      | zero =>
        cases ht
        by_cases hc : t.Changed
        · -- the first turn is followed by what is left of the limit
          have hrest := h.1 hc
          constructor
          · intro hk
            have := hrest.length_le
            rw [List.length_cons] at hk
            exact ⟨by omega, hc⟩
          · rintro ⟨hk, -⟩
            have := hrest.one_le_length (by omega)
            rw [List.length_cons]
            omega
        · rw [h.2 hc]
          exact ⟨fun hk => absurd hk (by simp), fun hk => absurd hk.2 hc⟩
      | succ k =>
        have hr : rest[k]? = some t := ht
        by_cases hc : u.Changed
        · rw [List.length_cons, Nat.succ_lt_succ_iff, Nat.succ_lt_succ_iff]
          exact ih (h.1 hc) hr
        · rw [h.2 hc] at hr
          cases hr

/-- Turns none of which ended in a fault. -/
def Faultless (turns : List Turn) : Prop := ∀ t ∈ turns, ∃ r, t.outcome = .ok r

theorem Faultless.append {turns more : List Turn} (h : Faultless turns) (h' : Faultless more) :
    Faultless (turns ++ more) := fun t ht =>
  (List.mem_append.mp ht).elim (h t) (h' t)

/-- The result that is known of a record after turns of it: that of the last one. -/
def told (before : Option Result) (turns : List Turn) : Option Result :=
  turns.foldl (fun _ t => t.outcome.toOption) before

theorem told_append (before : Option Result) (turns more : List Turn) :
    told before (turns ++ more) = told (told before turns) more :=
  List.foldl_append

/-- The result of the last turn. -/
def lastResult? (turns : List Turn) : Option Result := turns.getLast?.bind (·.outcome.toOption)

theorem told_none (turns : List Turn) : told none turns = lastResult? turns := by
  rcases List.eq_nil_or_concat turns with rfl | ⟨more, t, rfl⟩
  · rfl
  · rw [List.concat_eq_append, told_append]
    unfold lastResult?
    rw [List.getLast?_append]
    rfl

/-- The last of some turns has a result if none of them ended in a fault. -/
theorem Faultless.isSome_lastResult? {place : Nat} {turns : List Turn} (h : Faultless turns)
    (hne : 1 ≤ (turnsAt place turns).length) : (lastResult? (turnsAt place turns)).isSome := by
  have hn : turnsAt place turns ≠ [] := List.length_pos_iff.mp hne
  obtain ⟨r, hr⟩ := h _ (List.mem_filter.mp (List.getLast_mem hn)).1
  rw [lastResult?, List.getLast?_eq_some_getLast hn, Option.bind_some, hr]
  rfl

/-! ## Results under numbers -/

theorem Results.lookup_enter_self (number : Nat) (result : Result) (results : Results) :
    (results.enter number result).lookup number = some result := by
  induction results with
  | nil => simp [enter]
  | cons e rest ih =>
    obtain ⟨n, r⟩ := e
    by_cases h : n = number
    · simp [enter, h]
    · have h' : (number == n) = false := by simp [Ne.symm h]
      simp [enter, h, List.lookup_cons, h', ih]

theorem Results.lookup_enter_of_ne {number other : Nat} (h : other ≠ number) (result : Result)
    (results : Results) : (results.enter number result).lookup other = results.lookup other := by
  induction results with
  | nil => simp [enter, h]
  | cons e rest ih =>
    obtain ⟨n, r⟩ := e
    have ho : (other == number) = false := by simp [h]
    by_cases hn : n = number
    · simp [enter, hn, List.lookup_cons, ho]
    · by_cases hm : other = n
      · simp [enter, hn, hm]
      · have h' : (other == n) = false := by simp [hm]
        simp [enter, hn, List.lookup_cons, h', ih]

/-- Results with those of a pass entered. -/
def Results.enterAll (results : Results) (pass : List ((Nat × Nat) × Result)) : Results :=
  pass.foldl (fun acc e => acc.enter e.1.1 e.2) results

theorem Results.lookup_enterAll_of_notMem {pass : List ((Nat × Nat) × Result)} {number : Nat}
    (h : number ∉ pass.map (·.1.1)) (results : Results) :
    List.lookup number (results.enterAll pass) = List.lookup number results := by
  induction pass generalizing results with
  | nil => rfl
  | cons e rest ih =>
    rw [List.map_cons, List.mem_cons, not_or] at h
    show List.lookup number ((results.enter e.1.1 e.2).enterAll rest) = _
    rw [ih h.2, lookup_enter_of_ne h.1]

theorem Results.lookup_enterAll_of_mem {pass : List ((Nat × Nat) × Result)} {e : (Nat × Nat) × Result}
    (unique : (pass.map (·.1.1)).Nodup) (h : e ∈ pass) (results : Results) :
    List.lookup e.1.1 (results.enterAll pass) = some e.2 := by
  induction pass generalizing results with
  | nil => cases h
  | cons x rest ih =>
    rw [List.map_cons, List.nodup_cons] at unique
    show List.lookup e.1.1 ((results.enter x.1.1 x.2).enterAll rest) = _
    rcases List.mem_cons.mp h with rfl | hr
    · rw [lookup_enterAll_of_notMem unique.1, lookup_enter_self]
    · exact ih unique.2 hr _

/-- Results are collected if there is one under each number, in the order of the places numbered. -/
theorem collect_ok (results : Results) (numbered : List (Nat × Nat)) (last : Nat → Option Result)
    (h : ∀ e ∈ numbered, results.lookup e.1 = last e.2 ∧ (last e.2).isSome) :
    ∃ found, collect results (numbered.map (·.1)) = .ok found ∧
      found.map some = (numbered.map (·.2)).map last := by
  induction numbered with
  | nil => exact ⟨[], rfl, rfl⟩
  | cons e rest ih =>
    obtain ⟨found, hfound, hmap⟩ := ih fun x hx => h x (List.mem_cons_of_mem e hx)
    obtain ⟨hlookup, hsome⟩ := h e List.mem_cons_self
    obtain ⟨result, hr⟩ := Option.isSome_iff_exists.mp hsome
    refine ⟨result :: found, ?_, ?_⟩
    · rw [List.map_cons, collect, hlookup, hr, hfound]
      rfl
    · rw [List.map_cons, List.map_cons, List.map_cons, hr, hmap]

/-! ## Pass after pass -/

/-- What of a pass stays pending: the records that changed. -/
def still (pass : List ((Nat × Nat) × Result)) : List (Nat × Nat) :=
  (pass.filter fun e => changing e.2).map (·.1)

theorem still_sublist (pass : List ((Nat × Nat) × Result)) : (still pass).Sublist (pass.map (·.1)) :=
  List.filter_sublist.map _

/-- A record whose place, or whose number, stays pending is one that changed. -/
theorem changing_of_mem_still {α : Type} {key : Nat × Nat → α} {pass : List ((Nat × Nat) × Result)}
    {e : (Nat × Nat) × Result} (unique : (pass.map (key ·.1)).Nodup) (he : e ∈ pass)
    (h : key e.1 ∈ (still pass).map key) : changing e.2 = true := by
  obtain ⟨_, hx, hkey⟩ := List.mem_map.mp h
  obtain ⟨x, hin, rfl⟩ := List.mem_map.mp hx
  obtain ⟨hx, hchanging⟩ := List.mem_filter.mp hin
  rw [← List.inj_on_of_nodup_map unique hx he hkey]
  exact hchanging

theorem passes_succ (s : Setup) (names : Option Places) (limit : Nat) {pending : List (Nat × Nat)}
    (hp : pending ≠ []) (results : Results) (f : Fleet) :
    passes s names (limit + 1) pending results f =
      match f.reconcileAll s names (pending.map (·.2)) with
      | (.error halt, f) => (.error halt, f)
      | (.ok outcomes, f) =>
        passes s names limit (still (pending.zip outcomes)) (results.enterAll (pending.zip outcomes))
          f := by
  cases pending with
  | nil => exact absurd rfl hp
  | cons first others => rfl

/-- A pass without faults: one turn of every pending record, in their order, each with its result. -/
theorem pass_outcomes {pending : List (Nat × Nat)} {f g : Fleet} {outcomes : List Result}
    (h : f.reconcileAll s names (pending.map (·.2)) = (.ok outcomes, g)) :
    (pending.zip outcomes).map (·.1) = pending ∧
      ∃ turns, Turns s names turns f g ∧ turns.map (·.place) = pending.map (·.2) ∧ Faultless turns ∧
        ∀ e ∈ pending.zip outcomes, ∃ t ∈ turns, t.place = e.1.2 ∧ t.outcome = .ok e.2 := by
  obtain ⟨turns, hturns, -, hended⟩ := reconcileAll_turns s names (pending.map (·.2)) f
  rw [h] at hturns hended
  obtain ⟨hplaces, houtcome⟩ := hended
  have hlength : pending.length = outcomes.length := by
    have hp := congrArg List.length hplaces
    have ho := congrArg List.length houtcome
    simp only [List.length_map] at hp ho
    omega
  have hpaired : turns.map (fun t => (t.place, t.outcome))
      = (pending.zip outcomes).map fun e => (e.1.2, .ok e.2) := by
    rw [← List.zip_map', hplaces, houtcome, List.zip_map]
    rfl
  refine ⟨List.map_fst_zip (Nat.le_of_eq hlength), turns, hturns, hplaces, ?_, ?_⟩
  · intro t ht
    obtain ⟨r, -, hr⟩ := List.mem_map.mp (houtcome ▸ List.mem_map_of_mem ht :
      t.outcome ∈ outcomes.map .ok)
    exact ⟨r, hr.symm⟩
  · intro e he
    obtain ⟨t, ht, hte⟩ := List.mem_map.mp (hpaired ▸ List.mem_map_of_mem he :
      (e.1.2, .ok e.2) ∈ turns.map fun t => (t.place, t.outcome))
    obtain ⟨hplace, hresult⟩ := Prod.mk.inj hte
    exact ⟨t, ht, hplace, hresult⟩

/-- A pass without faults over different records: every one of them has one turn, and one result. -/
theorem pass_turns {pending : List (Nat × Nat)} (distinct : (pending.map (·.2)).Nodup) {f g : Fleet}
    {outcomes : List Result} (h : f.reconcileAll s names (pending.map (·.2)) = (.ok outcomes, g)) :
    (pending.zip outcomes).map (·.1) = pending ∧
      ∃ turns, Turns s names turns f g ∧ (∀ t ∈ turns, t.place ∈ pending.map (·.2)) ∧ Faultless turns ∧
        ∀ e ∈ pending.zip outcomes, ∃ t : Turn, t.outcome = .ok e.2 ∧ turnsAt e.1.2 turns = [t] := by
  obtain ⟨hpass, turns, hturns, hplaces, hfaultless, hone⟩ := pass_outcomes h
  refine ⟨hpass, turns, hturns, fun t ht => hplaces ▸ List.mem_map_of_mem ht, hfaultless, fun e he => ?_⟩
  obtain ⟨t, ht, hplace, hresult⟩ := hone e he
  exact ⟨t, hresult, hplace ▸ turnsAt_of_mem (hplaces ▸ distinct) ht⟩

/-- What passes make of pending records and results: turns without a fault, those of each record paced, and
the result of the last one under its number. Other numbers keep their results. -/
structure Passed (limit : Nat) (pending : List (Nat × Nat)) (results results' : Results)
    (turns : List Turn) : Prop where
  faultless : Faultless turns
  paced : ∀ e ∈ pending, Paced limit (turnsAt e.2 turns)
  latest : ∀ e ∈ pending, results'.lookup e.1 = told (results.lookup e.1) (turnsAt e.2 turns)
  kept : ∀ number ∉ pending.map (·.1), results'.lookup number = results.lookup number

/-- Where nothing is pending or no pass is left, nothing is done. -/
theorem Passed.nil {limit : Nat} {pending : List (Nat × Nat)} (h : limit = 0 ∨ pending = [])
    (results : Results) : Passed limit pending results results [] where
  faultless := fun _ ht => by cases ht
  paced := fun e he => by
    rcases h with rfl | rfl
    · rfl
    · cases he
  latest := fun _ _ => rfl
  kept := fun _ _ => rfl

/-- A pass that gives every record one turn, followed by the passes over what stays pending. -/
theorem Passed.of_pass {limit : Nat} {pass : List ((Nat × Nat) × Result)} {turns more : List Turn}
    {results results' : Results}
    (distinct : (pass.map (·.1.2)).Nodup) (unique : (pass.map (·.1.1)).Nodup)
    (faultless : Faultless turns)
    (one : ∀ e ∈ pass, ∃ t : Turn, t.outcome = .ok e.2 ∧ turnsAt e.1.2 turns = [t])
    (within : ∀ t ∈ more, t.place ∈ (still pass).map (·.2))
    (h : Passed limit (still pass) (results.enterAll pass) results' more) :
    Passed (limit + 1) (pass.map (·.1)) results results' (turns ++ more) := by
  have hentry (e : (Nat × Nat) × Result) (he : e ∈ pass) :
      Paced (limit + 1) (turnsAt e.1.2 (turns ++ more)) ∧ results'.lookup e.1.1
        = told (results.lookup e.1.1) (turnsAt e.1.2 (turns ++ more)) := by
    obtain ⟨t, ht, hturn⟩ := one e he
    have hentered := Results.lookup_enterAll_of_mem unique he results
    have hfirst : told (results.lookup e.1.1) [t] = some e.2 := by
      show t.outcome.toOption = some e.2
      rw [ht]
      rfl
    rw [turnsAt_append, hturn, told_append, hfirst, ← hentered]
    by_cases hchanging : changing e.2 = true
    · -- a record that changed has the turns of the passes to come
      have hstill : e.1 ∈ still pass := List.mem_map_of_mem (List.mem_filter.mpr ⟨he, hchanging⟩)
      have hchanged : t.Changed := (Turn.changed_iff ht).mpr hchanging
      exact ⟨⟨fun _ => h.paced e.1 hstill, fun hn => absurd hchanged hn⟩, h.latest e.1 hstill⟩
    · -- any other record has had its last turn
      have hunchanged : ¬t.Changed := fun hc => hchanging ((Turn.changed_iff ht).mp hc)
      have hnone : turnsAt e.1.2 more = [] := turnsAt_eq_nil fun u hu hplace =>
        hchanging (changing_of_mem_still distinct he (hplace ▸ within u hu))
      rw [hnone, h.kept e.1.1 fun hn => hchanging (changing_of_mem_still unique he hn)]
      exact ⟨⟨fun hc => absurd hc hunchanged, fun _ => rfl⟩, rfl⟩
  exact {
    faultless := faultless.append h.faultless
    paced := List.forall_mem_map.mpr fun e he => (hentry e he).1
    latest := List.forall_mem_map.mpr fun e he => (hentry e he).2
    kept := fun number hn => by
      rw [h.kept number fun hs => hn (((still_sublist pass).map _).subset hs)]
      exact Results.lookup_enterAll_of_notMem (by rwa [List.map_map] at hn) results }

/-- The passes over pending records are turns of them. Those of each record are paced, and the result under
its number is that of the last one. -/
theorem passes_turns (s : Setup) (names : Option Places) (limit : Nat) {pending : List (Nat × Nat)}
    (distinct : (pending.map (·.2)).Nodup) (unique : (pending.map (·.1)).Nodup)
    (results : Results) (f : Fleet) :
    ∃ turns, Turns s names turns f (passes s names limit pending results f).2 ∧
      (∀ t ∈ turns, t.place ∈ pending.map (·.2)) ∧
      match (passes s names limit pending results f).1 with
      | .error halt => Explains s turns halt
      | .ok results' => Passed limit pending results results' turns := by
  induction limit generalizing pending results f with
  | zero => exact ⟨[], .nil f, by simp, .nil (Or.inl rfl) results⟩
  | succ limit ih =>
    by_cases hp : pending = []
    · rw [hp]
      exact ⟨[], .nil f, by simp, .nil (Or.inr rfl) results⟩
    have hstep := passes_succ s names limit hp results f
    rcases hr : f.reconcileAll s names (pending.map (·.2)) with ⟨halt | outcomes, g⟩
    · -- a pass without results is the last one
      obtain ⟨turns, hturns, hplaces, houtcome⟩ :=
        reconcileAll_turns s names (pending.map (·.2)) f
      rw [hr] at hturns houtcome hstep
      rw [hstep]
      exact ⟨turns, hturns, hplaces, houtcome⟩
    obtain ⟨hpass, turns, hturns, hplaces, hfaultless, hone⟩ := pass_turns distinct hr
    rw [hr] at hstep
    rw [hstep]
    dsimp only
    generalize pending.zip outcomes = pass at hpass hone ⊢
    subst hpass
    have hsub := still_sublist pass
    obtain ⟨more, hmore, hwithin, houtcome⟩ := ih
      ((hsub.map (·.2)).nodup distinct) ((hsub.map (·.1)).nodup unique)
      (results.enterAll pass) g
    refine ⟨turns ++ more, hturns.append hmore, ?_, ?_⟩
    · intro t ht
      rcases List.mem_append.mp ht with ht | ht
      · exact hplaces t ht
      · exact (hsub.map _).subset (hwithin t ht)
    revert houtcome
    rcases (passes s names limit (still pass) (results.enterAll pass) g).1 with halt | results'
    · exact fun hexplains => hexplains.append turns
    · intro hpassed
      rw [List.map_map] at distinct unique
      exact hpassed.of_pass distinct unique hfaultless hone hwithin

end Fleet

end InfluxKeeper
