import InfluxKeeper.Proofs.Reconcile.Identity

/-!
# Identity over runs

> `run_identity`: over every stretch of a run, also of one that ends in a fault, a record keeps its identity.
> A mapping that has another id at the end took it at one of the visits, from the answer to its own creation,
> and what was observed of a record has changed only if one of the visits found an object.

The step is `identity_visit`. `Identified` is what visits come to: it composes with a visit before them
(`Identified.after`), and so it holds of every sequence of visits, by induction.
-/

namespace InfluxKeeper

open Api

namespace Fleet

variable {s : Setup}

/-- The record at a place of a fleet, in work. -/
def work? (f : Fleet) (place : Nat) : Option Work :=
  f.records[place]?.map fun r => ⟨r, f.wire, f.events⟩

/-- In the course of visits, one of them comes to a place and meets work there, with a resolver. -/
def Meets (s : Setup) (vs : List Visit) (place : Nat) (f : Fleet) (v : Visit)
    (resolver : Option Resolver) (w : Work) : Prop :=
  ∃ before after, vs = before ++ v :: after ∧ v.place = place ∧
    resolver = v.names.map (f.visits s before).resolver ∧ (f.visits s before).work? place = some w

/-- What visits may do to what identifies the record at a place. -/
structure Identified (s : Setup) (vs : List Visit) (place : Nat) (f : Fleet) (r r' : Record) : Prop where
  keeps : r.KeepsIdentity r'
  /-- The metadata of a mapping stay, unless it adopts an id at one of the visits. -/
  adopts : r.kind = .mapping → r'.metadata = r.metadata ∨
    ∃ v resolver w id, f.Meets s vs place v resolver w ∧ v.looks = false ∧ w.Adopts s resolver id ∧
      r'.metadata = r.metadata.setExternalName id
  /-- What was observed stays, unless one of the visits found an object. -/
  observes : r'.resource.observed = r.resource.observed ∨
    ∃ v resolver w object, f.Meets s vs place v resolver w ∧ w.record.kind ∈ s.kinds ∧
      (w.prepare resolver).finding s.client = .ok (some object)

theorem Identified.refl (vs : List Visit) (place : Nat) (f : Fleet) (r : Record) :
    f.Identified s vs place r r :=
  ⟨.refl r, fun _ => Or.inl rfl, Or.inl rfl⟩

theorem meets_first {f : Fleet} {v : Visit} {r : Record} (h : f.records[v.place]? = some r)
    (rest : List Visit) :
    f.Meets s (v :: rest) v.place v (v.names.map f.resolver) ⟨r, f.wire, f.events⟩ :=
  ⟨[], rest, rfl, rfl, rfl, congrArg (Option.map _) h⟩

/-- What is met after a first visit is met. -/
theorem Meets.later {f : Fleet} {v v' : Visit} {rest : List Visit} {place : Nat}
    {resolver : Option Resolver} {w : Work} (h : (f.visit s v).Meets s rest place v' resolver w) :
    f.Meets s (v :: rest) place v' resolver w := by
  obtain ⟨before, after, rfl, hplace, hresolver, hwork⟩ := h
  exact ⟨v :: before, after, rfl, hplace, hresolver, hwork⟩

/-- What a first visit may do. -/
theorem identified_visit {f : Fleet} {v : Visit} {place : Nat} {r : Record}
    (h : f.records[place]? = some r) (rest : List Visit) :
    ∃ r₁, (f.visit s v).records[place]? = some r₁ ∧ f.Identified s (v :: rest) place r r₁ := by
  cases hv : f.records[v.place]? with
  | none => rw [visit_of_none hv]; exact ⟨r, h, .refl _ place f r⟩
  | some rv =>
    rw [records_visit hv]
    by_cases hp : v.place = place
    · subst hp
      rw [if_pos rfl]
      rw [hv] at h
      cases h
      have hmeets := meets_first (s := s) hv rest
      have hstep := Work.identity_visit s (v.names.map f.resolver) v.looks ⟨r, f.wire, f.events⟩
      refine ⟨_, rfl, hstep.keeps, fun hm => ?_, ?_⟩
      · exact (hstep.adopts hm).imp id fun ⟨hlooks, id, hid⟩ => ⟨v, _, _, id, hmeets, hlooks, hid⟩
      · exact hstep.observes.imp id fun ⟨hk, object, hf⟩ => ⟨v, _, _, object, hmeets, hk, hf⟩
    · rw [if_neg hp]
      exact ⟨r, h, .refl _ place f r⟩

/-- What a first visit and the rest may do. The id that a mapping has at the end is the one adopted last. -/
theorem Identified.after {f : Fleet} {v : Visit} {rest : List Visit} {place : Nat} {r r₁ r' : Record}
    (h : f.Identified s (v :: rest) place r r₁) (h' : (f.visit s v).Identified s rest place r₁ r') :
    f.Identified s (v :: rest) place r r' := by
  refine ⟨h.keeps.trans h'.keeps, fun hm => ?_, ?_⟩
  · have hfirst := h.adopts hm
    rcases h'.adopts (h.keeps.kind.trans hm) with hsame | ⟨v', resolver, w, id, hmeets, hlooks, hadopts, hset⟩
    · exact hsame ▸ hfirst
    · refine Or.inr ⟨v', resolver, w, id, hmeets.later, hlooks, hadopts, ?_⟩
      rcases hfirst with hsame | ⟨_, _, _, _, _, _, _, hset₁⟩
      · rw [hset, hsame]
      · rw [hset, hset₁, Metadata.setExternalName_setExternalName]
  · rcases h'.observes with hsame | ⟨v', resolver, w, object, hmeets, hfound⟩
    · exact hsame ▸ h.observes
    · exact Or.inr ⟨v', resolver, w, object, hmeets.later, hfound⟩

theorem visits_identity (vs : List Visit) {f : Fleet} {place : Nat} {r : Record}
    (h : f.records[place]? = some r) :
    ∃ r', (f.visits s vs).records[place]? = some r' ∧ f.Identified s vs place r r' := by
  induction vs generalizing f r with
  | nil => exact ⟨r, h, .refl [] place f r⟩
  | cons v rest ih =>
    obtain ⟨r₁, hr₁, hfirst⟩ := identified_visit (v := v) h rest
    obtain ⟨r', hr', hrest⟩ := ih hr₁
    exact ⟨r', hr', hfirst.after hrest⟩

/-- **Runs keep identities.** A run is a sequence of visits, and over every stretch of it every record keeps its
identity, whatever the answers; an id is adopted, and an observation made, at a visit of the stretch. -/
theorem run_identity (ops : List Operation) (f : Fleet) :
    ∃ vs, (∀ v ∈ vs, ∃ op ∈ ops, op.Includes v) ∧ f.run s ops = f.visits s vs ∧
      ∀ before stretch after, vs = before ++ stretch ++ after →
        ∀ (place : Nat) (r : Record), (f.visits s before).records[place]? = some r →
          ∃ r', (f.visits s (before ++ stretch)).records[place]? = some r' ∧
            (f.visits s before).Identified s stretch place r r' := by
  obtain ⟨vs, hvs, hrun⟩ := run_visits (s := s) ops f
  refine ⟨vs, hvs, hrun, fun before stretch after _ place r h => ?_⟩
  rw [visits_append]
  exact visits_identity stretch h

/-- A mapping without an id, with a label and a remark. -/
def nameless : Record :=
  let r := Record.ofName "all" (.mapping ⟨.text "b1", none, none, "db", .null, .text "o1", none, none,
    "rp"⟩ .empty)
  { r with metadata := { r.metadata with
      labels := [("team", .text "ops")], annotations := [("note", .text "kept")] } }

/-- Its first creation is refused, its second is answered by an id, and then it is found. -/
def namelessFleet : Fleet :=
  ⟨[nameless], .ofAnswers [.response 500 "", .ofValue (.object [("id", .text "m1")]),
    .ofValue (.object [("content", .list [.object [("id", .text "m2"), ("database", .text "db")]])])], []⟩

/-- The mapping has the id of the second creation at the end, not that of the object found, and no more
annotations than that. -/
theorem run_identity_nameless :
    let s := Setup.ofClient ⟨"http://db", "", 30⟩
    let ops : List Operation := [.reconcile none 0, .observe none 0, .reconcileAll none [0], .observe none 0]
    ((namelessFleet.run s ops).records[0]?).map (·.metadata) =
        some { nameless.metadata with
          annotations := [("note", .text "kept"), (externalNameKey, .text "m1")] } ∧
      ∃ vs, (∀ v ∈ vs, ∃ op ∈ ops, op.Includes v) ∧ namelessFleet.run s ops = namelessFleet.visits s vs ∧
        ∃ r', (namelessFleet.run s ops).records[0]? = some r' ∧
          namelessFleet.Identified s vs 0 nameless r' := by
  intro s ops
  obtain ⟨vs, hvs, hrun, hstretch⟩ := run_identity (s := s) ops namelessFleet
  obtain ⟨r', hr', hidentified⟩ := hstretch [] vs [] (by simp) 0 nameless rfl
  exact ⟨by decide +kernel, vs, hvs, hrun, r', hrun ▸ hr', hidentified⟩

end Fleet

end InfluxKeeper
