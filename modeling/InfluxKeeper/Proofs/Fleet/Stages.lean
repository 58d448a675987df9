import InfluxKeeper.Proofs.Fleet.Discipline

/-!
# The stages of a convergence

Kinds are taken in the order given, whatever that is; it may name a kind twice. `Staged` follows that recursion:
a stage takes records of one kind only, and unless a fault in it ends the run, it takes all of them.

> `passesByKind_staged`: the passes over kind after kind are staged.

So a record of a kind that comes first in the order has had a turn that ended well before any record of a kind
that comes later has one (`Staged.earlier`), and if no kind comes twice, it has none after (`Staged.later`).
-/

namespace InfluxKeeper

open Api

namespace Fleet

variable {s : Setup} {names : Option Places} {f : Fleet} {places : Places} {limit : Nat}

/-- Turns of records of one kind. There are none if no passes are allowed. -/
def OfKind (f : Fleet) (places : Places) (limit : Nat) (kind : String) (turns : List Turn) : Prop :=
  ∀ t ∈ turns, 0 < limit ∧ t.place ∈ places ∧ ∃ k, f.kindAt? t.place = some k ∧ k.name = kind

/-- All records of a kind have had a turn that ended well. -/
def Complete (f : Fleet) (places : Places) (kind : String) (turns : List Turn) : Prop :=
  ∀ place ∈ places, ∀ k, f.kindAt? place = some k → k.name = kind →
    ∃ t ∈ turns, t.place = place ∧ ∃ result, t.outcome = .ok result

/-- Turns in stages, one for each kind of an order. A fault may end them in any stage. -/
inductive Staged (f : Fleet) (places : Places) (limit : Nat) : List String → List Turn → Prop
  | done : Staged f places limit [] []
  | stopped {kind : String} {rest : List String} {turns : List Turn}
      (ofKind : OfKind f places limit kind turns) : Staged f places limit (kind :: rest) turns
  | next {kind : String} {rest : List String} {turns later : List Turn}
      (ofKind : OfKind f places limit kind turns)
      (complete : 0 < limit → Complete f places kind turns)
      (more : Staged f places limit rest later) : Staged f places limit (kind :: rest) (turns ++ later)

/-! ## What comes before what -/

/-- What stands in a list made of two stands in the first of them, or behind it. -/
theorem cut_append {α : Type} {l more before after : List α} {a : α}
    (h : l ++ more = before ++ a :: after) :
    a ∈ l ∧ (∃ rest, l = before ++ rest) ∨
      ∃ before', before = l ++ before' ∧ more = before' ++ a :: after := by
  rcases List.append_eq_append_iff.mp h with ⟨before', hbefore, hmore⟩ | ⟨rest, hl, hafter⟩
  · exact .inr ⟨before', hbefore, hmore⟩
  · cases rest with
    | nil =>
      rw [List.append_nil] at hl
      rw [List.nil_append] at hafter
      exact .inr ⟨[], by rw [List.append_nil, hl], hafter.symm⟩
    | cons b rest =>
      rw [List.cons_append, List.cons.injEq] at hafter
      refine .inl ⟨?_, b :: rest, hl⟩
      rw [hl, hafter.1]
      exact List.mem_append_right _ List.mem_cons_self

section staged

variable {order : List String} {turns : List Turn}

/-- Every turn is of a record at the places given and of a kind of the order. -/
theorem Staged.of_mem (h : Staged f places limit order turns) {t : Turn} (ht : t ∈ turns) :
    0 < limit ∧ t.place ∈ places ∧ ∃ k, f.kindAt? t.place = some k ∧ k.name ∈ order := by
  induction h with
  | done => cases ht
  | stopped ofKind =>
    obtain ⟨hl, hp, k, hk, rfl⟩ := ofKind t ht
    exact ⟨hl, hp, k, hk, List.mem_cons_self⟩
  | next ofKind _ _ ih =>
    rcases List.mem_append.mp ht with ht | ht
    · obtain ⟨hl, hp, k, hk, rfl⟩ := ofKind t ht
      exact ⟨hl, hp, k, hk, List.mem_cons_self⟩
    · obtain ⟨hl, hp, k, hk, hmem⟩ := ih ht
      exact ⟨hl, hp, k, hk, List.mem_cons_of_mem _ hmem⟩

variable {before after : List Turn} {t : Turn} {k k' : Kind}

/-- Turns of the first kind of an order come before no other kind. -/
theorem OfKind.idxOf_eq_zero {kind : String} (h : OfKind f places limit kind turns) (ht : t ∈ turns)
    (hk : f.kindAt? t.place = some k) (rest : List String) : (kind :: rest).idxOf k.name = 0 := by
  obtain ⟨-, -, k₁, hk₁, hname⟩ := h t ht
  rw [hk] at hk₁
  cases hk₁
  rw [hname, List.idxOf_cons_self]

/-- A record of an earlier kind has had a turn that ended well. -/
theorem Staged.earlier (h : Staged f places limit order turns) (parts : turns = before ++ t :: after)
    (hk : f.kindAt? t.place = some k) (earlier : order.idxOf k'.name < order.idxOf k.name)
    {place : Nat} (hp : place ∈ places) (hk' : f.kindAt? place = some k') :
    ∃ u ∈ before, u.place = place ∧ ∃ result, u.outcome = .ok result := by
  induction h generalizing before with
  | done => exact absurd parts (by simp)
  | @stopped kind rest turns ofKind =>
    have first := ofKind.idxOf_eq_zero (parts ▸ by simp) hk rest
    omega
  | @next kind rest turns later ofKind complete more ih =>
    rcases cut_append parts with ⟨ht, -⟩ | ⟨before', rfl, hlater⟩
    · have first := ofKind.idxOf_eq_zero ht hk rest
      omega
    · have ht : t ∈ later := by rw [hlater]; simp
      by_cases hkind : k'.name = kind
      · -- the stage of that kind has just been completed
        obtain ⟨u, hu, hplace, hresult⟩ := complete (more.of_mem ht).1 place hp k' hk' hkind
        exact ⟨u, List.mem_append_left _ hu, hplace, hresult⟩
      · have hne : kind ≠ k.name := by
          intro same
          rw [same, List.idxOf_cons_self] at earlier
          exact absurd earlier (Nat.not_lt_zero _)
        rw [List.idxOf_cons_ne rest (Ne.symm hkind), List.idxOf_cons_ne rest hne] at earlier
        obtain ⟨u, hu, hfound⟩ := ih hlater (Nat.lt_of_succ_lt_succ earlier)
        exact ⟨u, List.mem_append_right _ hu, hfound⟩

/-- If no kind comes twice, no record of a later kind has had a turn. -/
theorem Staged.later (h : Staged f places limit order turns) (unrepeated : order.Nodup)
    (parts : turns = before ++ t :: after) (hk : f.kindAt? t.place = some k)
    (later : order.idxOf k.name < order.idxOf k'.name) :
    ∀ u ∈ before, f.kindAt? u.place ≠ some k' := by
  induction h generalizing before with
  | done => exact absurd parts (by simp)
  | @stopped kind rest turns ofKind =>
    intro u hu hk'
    have first := ofKind.idxOf_eq_zero (parts ▸ List.mem_append_left _ hu) hk' rest
    omega
  | @next kind rest turns more ofKind complete staged ih =>
    obtain ⟨hkind, hrest⟩ := List.nodup_cons.mp unrepeated
    -- nothing of the first kind is of a later one
    have not_first (u : Turn) (hu : u ∈ turns) : f.kindAt? u.place ≠ some k' := by
      intro hk'
      have first := ofKind.idxOf_eq_zero hu hk' rest
      omega
    intro u hu
    rcases cut_append parts with ⟨-, more', hturns⟩ | ⟨before', rfl, hmore⟩
    · exact not_first u (hturns ▸ List.mem_append_left _ hu)
    · rcases List.mem_append.mp hu with hu | hu
      · exact not_first u hu
      · obtain ⟨-, -, k₁, hk₁, hmem⟩ := staged.of_mem (t := t) (by rw [hmore]; simp)
        rw [hk] at hk₁
        cases hk₁
        have hne : kind ≠ k.name := fun same => hkind (same ▸ hmem)
        have hne' : kind ≠ k'.name := by
          intro same
          rw [same, List.idxOf_cons_self] at later
          exact absurd later (Nat.not_lt_zero _)
        rw [List.idxOf_cons_ne rest hne, List.idxOf_cons_ne rest hne'] at later
        exact ih hrest hmore (Nat.lt_of_succ_lt_succ later) u hu

end staged

/-! ## Passes are staged -/

theorem kindAt?_of_phase {kind : String} {rest : List String} {place : Nat}
    (h : f.phase (kind :: rest) place = 0) : ∃ k, f.kindAt? place = some k ∧ k.name = kind := by
  rw [phase_cons_eq_zero] at h
  unfold kindAt?
  cases hr : f.records[place]? with
  | none => rw [hr] at h; cases h
  | some r =>
    rw [hr] at h
    exact ⟨r.kind, rfl, by simpa using h⟩

theorem phase_of_kindAt? {kind : String} {rest : List String} {place : Nat} {k : Kind}
    (hk : f.kindAt? place = some k) (hname : k.name = kind) : f.phase (kind :: rest) place = 0 := by
  unfold phase
  rw [hk, ← hname]
  exact List.idxOf_cons_self

/-- Places keep their kinds in a run, so stages can be told by the kinds at its start. -/
theorem Staged.of_kinds {g : Fleet} (same : ∀ place, g.kindAt? place = f.kindAt? place)
    {order : List String} {turns : List Turn} (h : Staged g places limit order turns) :
    Staged f places limit order turns := by
  have hsame : g.kindAt? = f.kindAt? := funext same
  induction h with
  | done => exact .done
  | stopped ofKind => exact .stopped (by unfold OfKind at ofKind ⊢; rwa [hsame] at ofKind)
  | next ofKind complete _ ih =>
    refine .next ?_ (fun hl => ?_) ih
    · unfold OfKind at ofKind ⊢
      rwa [hsame] at ofKind
    · have all := complete hl
      unfold Complete at all ⊢
      rwa [hsame] at all

/-- The passes over kind after kind are staged, whatever the order. -/
theorem passesByKind_staged (s : Setup) (names : Option Places) (limit : Nat)
    {numbered : List (Nat × Nat)} (distinct : (numbered.map (·.2)).Nodup)
    (unique : (numbered.map (·.1)).Nodup) (order : List String) (results : Results) (f : Fleet) :
    ∃ turns, Turns s names turns f (passesByKind s names limit numbered order results f).2 ∧
      Staged f (numbered.map (·.2)) limit order turns := by
  induction order generalizing results f with
  | nil => exact ⟨[], .nil f, .done⟩
  | cons kind rest ih =>
    cases limit with
    | zero =>
      -- without passes there are no turns, so those of the rest are those of all
      obtain ⟨turns, hturns, hstaged⟩ := ih results f
      refine ⟨turns, hturns, .stopped fun t ht => ?_⟩
      exact absurd (hstaged.of_mem ht).1 (Nat.lt_irrefl 0)
    | succ limit =>
      obtain ⟨turns, hturns, hfirst, houtcome⟩ :=
        firstKind_turns s names (limit + 1) distinct unique kind rest results f rfl
      have ofKind : OfKind f (numbered.map (·.2)) (limit + 1) kind turns := fun t ht =>
        ⟨Nat.succ_pos limit, (hfirst t ht).1, kindAt?_of_phase (hfirst t ht).2⟩
      unfold passesByKind
      dsimp only
      split
      · -- a fault ends the run in this stage
        next fault g hp =>
        rw [hp] at hturns
        exact ⟨turns, hturns, .stopped ofKind⟩
      · next results' g hp =>
        rw [hp] at hturns houtcome
        obtain ⟨later, hlater, hstaged⟩ := ih results' g
        refine ⟨turns ++ later, hturns.append hlater, .next ofKind (fun _ => ?_) ?_⟩
        · intro place hplace k hk hname
          obtain ⟨e, he, rfl⟩ := List.mem_map.mp hplace
          have paced := (houtcome.2 e he).1 (phase_of_kindAt? hk hname)
          obtain ⟨t, ht⟩ := List.exists_mem_of_length_pos (paced.one_le_length (Nat.succ_pos limit))
          obtain ⟨ht, hat⟩ := List.mem_filter.mp ht
          exact ⟨t, ht, of_decide_eq_true hat, houtcome.1 t ht⟩
        · exact hstaged.of_kinds hturns.kindAt?

/-- So is a convergence of records of known kinds. -/
theorem converge_staged (s : Setup) (names : Option Places) {places : Places} (maxPasses : Option Int)
    {order : List String} {f : Fleet} (distinct : places.Nodup)
    (known : ∀ r ∈ places.filterMap (f.records[·]?), r.kind.name ∈ order) :
    ∃ turns, Turns s (some (names.getD places)) turns f (f.converge s names places maxPasses order).2 ∧
      Staged f places (passLimit s maxPasses) order turns := by
  obtain ⟨numbered, hplaces, hnumbers, hconverge⟩ := converge_of_known s names maxPasses known
  obtain ⟨turns, hturns, hstaged⟩ :=
    passesByKind_staged s (some (names.getD places)) (passLimit s maxPasses)
      (hplaces.symm ▸ distinct) hnumbers order [] f
  rw [hconverge]
  refine ⟨turns, ?_, hplaces ▸ hstaged⟩
  split <;> next hp => rw [hp] at hturns; exact hturns

end Fleet

end InfluxKeeper
