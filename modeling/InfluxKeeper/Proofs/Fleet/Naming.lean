import InfluxKeeper.Proofs.Fleet.Dependents
import InfluxKeeper.Proofs.Fleet.Stages
import InfluxKeeper.Proofs.Reconcile.Identity
import InfluxKeeper.Proofs.Reconcile.MadeFor

/-!
# The organization of a mapping in a convergence

A mapping that refers to an organization is handled in the name of that organization once it has one, and until
then in the name that the mapping has itself. An organization has an external name from the start, or from its
first turn on.

> `converge_madeFor`: which of the two a request is made for, in any order of the kinds.
> `converge_forgets`: in the order of deletion an organization is not named yet.

The name of an organization is settled with its first turn (`Turns.namedAt`). The mapping keeps its own name as
long as it meets the organization without one (`Turns.holds`); its reference is the one that it has at the end
(`Turns.reference`).
-/

namespace InfluxKeeper

open Api

namespace Record

variable {r r' : Record}

/-- The external name that an organization has from its first turn on: the one that it has, or else its own
name. -/
def settledName (r : Record) : Value := if r.externalName.truthy then r.externalName else .text r.name

theorem nameByDefault_eq_settledName (hf : r.kind.foundByName = true) :
    r.nameByDefault.externalName = r.settledName := by
  rw [settledName, externalName_nameByDefault, hf]
  cases r.externalName.truthy <;> rfl

theorem truthy_settledName (hn : r.name ≠ "") : r.settledName.truthy = true := by
  unfold settledName
  split
  · assumption
  · show Value.truthy (.text r.name) = true
    simpa [Value.truthy, Scalar.truthy] using hn

/-- A record that keeps its identity keeps the external name that it has. -/
theorem KeepsIdentity.externalName_of_truthy (h : r.KeepsIdentity r') (hf : r.kind.foundByName = true)
    (ht : r.externalName.truthy = true) : r'.externalName = r.externalName := by
  rcases h.named hf with same | ⟨isOpen, -⟩
  · exact Metadata.externalName_congr same
  · rw [ht] at isOpen
    cases isOpen

/-- A name that it has later is the settled one. -/
theorem KeepsIdentity.externalName_eq_settled (h : r.KeepsIdentity r') (hf : r.kind.foundByName = true)
    (ht : r'.externalName.truthy = true) : r'.externalName = r.settledName := by
  unfold settledName
  rcases h.named hf with same | ⟨isOpen, taken⟩
  · have hsame : r'.externalName = r.externalName := Metadata.externalName_congr same
    rw [hsame] at ht ⊢
    rw [if_pos ht]
  · rw [if_neg (by simp [isOpen])]
    show (r'.metadata.external?).getD (.text "") = .text r.name
    rw [taken]
    rfl

end Record

/-- The organization of a mapping. -/
def Resource.org? : Resource → Option Value
  | .mapping p _ => some p.org
  | _ => none

/-- The reference of a mapping to its organization. -/
def Resource.orgRef? : Resource → Option Reference
  | .mapping p _ => p.orgRef
  | _ => none

namespace Fleet

variable {s : Setup} {names : Option Places} {places : Places}

/-! ## The name of an organization -/

/-- A record keeps its identity in a run. -/
theorem Turns.keepsIdentity {turns : List Turn} {f g : Fleet} (h : Turns s names turns f g) {place : Nat}
    {r : Record} (hr : f.records[place]? = some r) :
    ∃ r', g.records[place]? = some r' ∧ r.KeepsIdentity r' := by
  induction h generalizing r with
  | nil => exact ⟨r, hr, .refl r⟩
  | @cons t rest f g f' taken sent more ih =>
    have hturn : Turns s names [t] f g := .cons taken sent (.nil g)
    by_cases hp : t.place = place
    · subst hp
      obtain ⟨-, -, hrecord⟩ := hturn.of_some hr
      have hstep := (Work.identity_visit s (names.map f.resolver) false (f.work r)).keeps
      obtain ⟨r', hr', hrest⟩ := ih hrecord
      exact ⟨r', hr', hstep.trans hrest⟩
    · have hrecord : g.records[place]? = some r := by
        rw [hturn.records_of_notMem (by simpa using hp), hr]
      exact ih hrecord

/-- The record at a place has an external name. -/
def NamedAt (f : Fleet) (place : Nat) : Prop :=
  ∃ r, f.records[place]? = some r ∧ r.externalName.truthy = true

/-- An organization keeps the name that it has. -/
theorem Turns.keeps_namedAt {turns : List Turn} {f g : Fleet} (h : Turns s names turns f g) {place : Nat}
    {r : Record} (hr : f.records[place]? = some r) (hk : r.kind = .organization)
    (named : f.NamedAt place) : g.NamedAt place := by
  obtain ⟨r₁, hr₁, ht⟩ := named
  rw [hr] at hr₁
  cases hr₁
  obtain ⟨r', hr', hkeeps⟩ := h.keepsIdentity hr
  refine ⟨r', hr', ?_⟩
  rw [hkeeps.externalName_of_truthy (by rw [hk]; rfl) ht]
  exact ht

/-- An organization that had a turn that ended well has a name. -/
theorem Turns.namedAt {turns : List Turn} {f g : Fleet} (h : Turns s names turns f g) {t : Turn}
    (ht : t ∈ turns) {result : Result} (hok : t.outcome = .ok result) {r : Record}
    (hr : f.records[t.place]? = some r) (hk : r.kind = .organization) (hn : r.name ≠ "") :
    g.NamedAt t.place := by
  obtain ⟨before, after, g₁, g₂, -, hbefore, hturn, hafter⟩ := h.of_mem ht
  obtain ⟨r₁, hr₁, hkeeps⟩ := hbefore.keepsIdentity hr
  have hkind : r₁.kind = .organization := hkeeps.kind.trans hk
  have hname : r₁.name ≠ "" := by
    rw [show r₁.name = r.name from hkeeps.metadata.name]
    exact hn
  obtain ⟨houtcome, -, hrecord⟩ := hturn.of_some hr₁
  rw [hok] at houtcome
  -- a turn that ended well is a pass, and that names the organization
  have hhandled : r₁.kind ∈ s.kinds := (Work.reconcile_ok (Prod.fst_eq_iff.mp houtcome.symm)).1
  have hmetadata : ((g₁.work r₁).reconcile s (names.map g₁.resolver)).2.record.metadata =
      r₁.nameByDefault.metadata := by
    rcases Work.metadata_reconcile (w := g₁.work r₁) hhandled (names.map g₁.resolver) with
      hsame | ⟨id, hadopts, -⟩
    · rw [hsame, Work.looked, Work.metadata_look, Work.metadata_prepare]
      rfl
    · have hmapping : r₁.kind = .mapping := hadopts.mapping
      rw [hkind] at hmapping
      cases hmapping
  have hnamed : g₂.NamedAt t.place := by
    refine ⟨_, hrecord, ?_⟩
    have hsettled := congrArg Metadata.externalName hmetadata
    show Value.truthy (Metadata.externalName _) = true
    rw [hsettled]
    show r₁.nameByDefault.externalName.truthy = true
    rw [Record.nameByDefault_eq_settledName (by rw [hkind]; rfl)]
    exact Record.truthy_settledName hname
  have hkind₂ : ((g₁.work r₁).reconcile s (names.map g₁.resolver)).2.record.kind = .organization := by
    have hcard := congrArg Prod.fst (Work.card_reconcile s (names.map g₁.resolver) (g₁.work r₁))
    exact hcard.trans hkind
  exact hafter.keeps_namedAt hrecord hkind₂ hnamed

/-! ## The reference of a mapping -/

/-- The reference that a mapping has at a turn is the one that it has at the end of the run. -/
theorem Turns.reference {t : Turn} {more : List Turn} {f g f' : Fleet}
    (h : Turns s (some places) [t] f g) (h' : Turns s (some places) more g f')
    (distinct : (places.map f.designationAt?).Nodup) {r r' : Record}
    (hr : f.records[t.place]? = some r) (hk : r.kind ∈ s.kinds)
    (hr' : f'.records[t.place]? = some r') {p : Mapping.Parameters} {o : Mapping.Observation}
    (hmapping : r'.resource = .mapping p o) {x : Pointer} (hx : x ∈ r.resource.pointers)
    (hkey : x.key = "org") : (x.resolve (f.resolver places)).reference = p.orgRef := by
  obtain ⟨r₁, hr₁, hpointers, hsettled⟩ := h.pointers distinct hr hk
  obtain ⟨r₂, hr₂, haims⟩ := h'.aims (h.distinct distinct) hr₁ hsettled
  rw [hr'] at hr₂
  cases hr₂
  have hresolved : (x.resolve (f.resolver places)).aim ∈ r'.resource.pointers.map Pointer.aim := by
    rw [haims, hpointers]
    exact List.mem_map_of_mem (List.mem_map_of_mem hx)
  obtain ⟨y, hy, haim⟩ := List.mem_map.mp hresolved
  unfold Pointer.aim at haim
  simp only [Prod.mk.injEq] at haim
  obtain ⟨hykey, -, -, hreference⟩ := haim
  obtain ⟨p', o', hp', rfl⟩ := Resource.mapping_of_pointer hy (hykey.trans hkey)
  rw [hmapping] at hp'
  cases hp'
  exact hreference.symm

/-- A reference to an organization gives its name, or nothing as long as it has none. -/
theorem value_of_reference {f : Fleet} (distinct : (places.map f.designationAt?).Nodup) {place : Nat}
    (hp : place ∈ places) {target : Record} (htarget : f.records[place]? = some target)
    (hkind : target.kind = .organization) {p : Mapping.Parameters} {x : Pointer}
    (hx : x = ⟨"org", .organization, .externalName, p.org, p.orgRef, p.orgSelector⟩)
    (href : (x.resolve (f.resolver places)).reference = some ⟨target.name⟩) :
    (x.resolve (f.resolver places)).value =
      if target.externalName.truthy then target.externalName else x.value := by
  have hresolve := resolve?_eq_of_mem distinct hp htarget hkind rfl .externalName
  rw [show Identity.externalName.of Kind.organization.name target = target.externalName by
    simp [Identity.of, hkind]] at hresolve
  subst hx
  show Resolver.fieldOr _ _ _ (Pointer.resolve _ _).reference _ = _
  rw [href]
  unfold Resolver.fieldOr
  rw [Option.bind_some, hresolve]
  split <;> rfl

/-! ## What a mapping holds -/

/-- The record at a place is a mapping that refers to the organization of a name. -/
def RefersTo (f : Fleet) (place : Nat) (name : String) : Prop :=
  (f.records[place]?).bind (·.resource.orgRef?) = some ⟨name⟩

/-- The record at a place is a mapping with an organization of its own. -/
def Owns (f : Fleet) (place : Nat) (org : Value) : Prop :=
  (f.records[place]?).bind (·.resource.org?) = some org

theorem RefersTo.mapping {f : Fleet} {place : Nat} {name : String} (h : f.RefersTo place name) :
    ∃ r p o, f.records[place]? = some r ∧ r.resource = .mapping p o ∧ p.orgRef = some ⟨name⟩ := by
  obtain ⟨r, hr, href⟩ := Option.bind_eq_some_iff.mp h
  cases hresource : r.resource with
  | mapping p o => rw [hresource] at href; exact ⟨r, p, o, hr, hresource, href⟩
  | organization p o => rw [hresource] at href; cases href
  | bucket p o => rw [hresource] at href; cases href

theorem Owns.mapping {f : Fleet} {place : Nat} {org : Value} (h : f.Owns place org) :
    ∃ r p o, f.records[place]? = some r ∧ r.resource = .mapping p o ∧ p.org = org := by
  obtain ⟨r, hr, horg⟩ := Option.bind_eq_some_iff.mp h
  cases hresource : r.resource with
  | mapping p o => rw [hresource] at horg; exact ⟨r, p, o, hr, hresource, Option.some.inj horg⟩
  | organization p o => rw [hresource] at horg; cases horg
  | bucket p o => rw [hresource] at horg; cases horg

/-- In the course of a run, the mapping at a place holds its own organization, or that of the record at
another place, which has a name then. -/
structure Holds (f : Fleet) (place orgPlace : Nat) (own : Value) (target : Record) : Prop where
  there : ∃ r, f.records[orgPlace]? = some r ∧ target.KeepsIdentity r
  held : ∃ r x, f.records[place]? = some r ∧ x ∈ r.resource.pointers ∧ x.key = "org" ∧
    (x.value = own ∨ x.value = target.settledName ∧ f.NamedAt orgPlace)

section holds

variable {f g f' : Fleet} {t : Turn} {more : List Turn} {place orgPlace : Nat} {own : Value}
  {target : Record}

/-- At a turn the mapping comes to hold the name of the organization, if that has one. -/
theorem Holds.resolved (h : f.Holds t.place orgPlace own target) (hturn : Turns s (some places) [t] f g)
    (hrest : Turns s (some places) more g f') (distinct : (places.map f.designationAt?).Nodup)
    (refers : f'.RefersTo t.place target.name) (hp : orgPlace ∈ places)
    (hkind : target.kind = .organization) (hk : Kind.mapping ∈ s.kinds) :
    ∃ r x, f.records[t.place]? = some r ∧ x ∈ r.resource.pointers ∧ x.key = "org" ∧
      (f.NamedAt orgPlace ∧ (x.resolve (f.resolver places)).value = target.settledName ∨
        ¬f.NamedAt orgPlace ∧ (x.resolve (f.resolver places)).value = own) := by
  obtain ⟨org, horg, hkeeps⟩ := h.there
  obtain ⟨r, x, hr, hx, hkey, hvalue⟩ := h.held
  obtain ⟨r', p', o', hr', hmapping', href⟩ := refers.mapping
  obtain ⟨p, o, hmapping, hxp⟩ := Resource.mapping_of_pointer hx hkey
  have hhandled : r.kind ∈ s.kinds := by
    unfold Record.kind
    rw [hmapping]
    exact hk
  have hreference := hturn.reference hrest distinct hr hhandled hr' hmapping' hx hkey
  rw [href, show target.name = org.name from hkeeps.metadata.name.symm] at hreference
  have hresolved := value_of_reference distinct hp horg (hkeeps.kind.trans hkind) hxp hreference
  refine ⟨r, x, hr, hx, hkey, ?_⟩
  by_cases ht : org.externalName.truthy = true
  · rw [if_pos ht] at hresolved
    refine .inl ⟨⟨org, horg, ht⟩, hresolved.trans ?_⟩
    exact hkeeps.externalName_eq_settled (by rw [hkind]; rfl) ht
  · have unnamed : ¬f.NamedAt orgPlace := by
      rintro ⟨org', horg', ht'⟩
      rw [horg] at horg'
      cases horg'
      exact ht ht'
    rw [if_neg ht] at hresolved
    refine .inr ⟨unnamed, hresolved.trans ?_⟩
    rcases hvalue with hown | ⟨-, hnamed⟩
    · exact hown
    · exact absurd hnamed unnamed

/-- A turn of any record leaves that so. -/
theorem Holds.turn (h : f.Holds place orgPlace own target) (hturn : Turns s (some places) [t] f g)
    (hrest : Turns s (some places) more g f') (distinct : (places.map f.designationAt?).Nodup)
    (refers : f'.RefersTo place target.name) (hp : orgPlace ∈ places)
    (hkind : target.kind = .organization) : g.Holds place orgPlace own target := by
  obtain ⟨org, horg, hkeeps⟩ := h.there
  obtain ⟨org', horg', hkeeps'⟩ := hturn.keepsIdentity horg
  have later (named : f.NamedAt orgPlace) : g.NamedAt orgPlace :=
    hturn.keeps_namedAt horg (hkeeps.kind.trans hkind) named
  refine ⟨⟨org', horg', hkeeps.trans hkeeps'⟩, ?_⟩
  obtain ⟨r, x, hr, hx, hkey, hvalue⟩ := h.held
  have unchanged (hsame : g.records[place]? = some r) : ∃ r x, g.records[place]? = some r ∧
      x ∈ r.resource.pointers ∧ x.key = "org" ∧
      (x.value = own ∨ x.value = target.settledName ∧ g.NamedAt orgPlace) :=
    ⟨r, x, hsame, hx, hkey, hvalue.imp id fun ⟨hv, named⟩ => ⟨hv, later named⟩⟩
  by_cases hplace : t.place = place
  · subst hplace
    obtain ⟨p, o, hmapping, -⟩ := Resource.mapping_of_pointer hx hkey
    have hrkind : r.kind = .mapping := by
      unfold Record.kind
      rw [hmapping]
      rfl
    by_cases hk : Kind.mapping ∈ s.kinds
    · obtain ⟨r₁, x₁, hr₁, hx₁, hkey₁, hvalue₁⟩ := h.resolved hturn hrest distinct refers hp hkind hk
      obtain ⟨r₂, hr₂, hpointers, -⟩ := hturn.pointers distinct hr₁ (by
        rw [hr] at hr₁
        cases hr₁
        rw [hrkind]
        exact hk)
      refine ⟨r₂, x₁.resolve (f.resolver places), hr₂, ?_, hkey₁, ?_⟩
      · rw [hpointers]
        exact List.mem_map_of_mem hx₁
      · rcases hvalue₁ with ⟨named, hv⟩ | ⟨-, hv⟩
        · exact .inr ⟨hv, later named⟩
        · exact .inl hv
    · -- what is not handled stays as it is
      obtain ⟨-, -, hrecord⟩ := hturn.of_some hr
      have hunhandled : (f.work r).record.kind ∉ s.kinds := by
        show r.kind ∉ s.kinds
        rw [hrkind]
        exact hk
      rw [Option.map_some, Work.reconcile_of_unhandled hunhandled] at hrecord
      exact unchanged hrecord
  · exact unchanged (by rw [hturn.records_of_notMem (by simpa using hplace), hr])

/-- Every run of turns does. -/
theorem Turns.holds {turns : List Turn} (hturns : Turns s (some places) turns f g)
    (hrest : Turns s (some places) more g f') (h : f.Holds place orgPlace own target)
    (distinct : (places.map f.designationAt?).Nodup) (refers : f'.RefersTo place target.name)
    (hp : orgPlace ∈ places) (hkind : target.kind = .organization) :
    g.Holds place orgPlace own target := by
  induction hturns with
  | nil => exact h
  | @cons t rest f g₁ g taken sent after ih =>
    have hturn : Turns s (some places) [t] f g₁ := .cons taken sent (.nil g₁)
    exact ih hrest (h.turn hturn (after.append hrest) distinct refers hp hkind)
      (hturn.distinct distinct)

/-- The requests of a turn are made for the organization that the mapping refers to, if that has a name at the
turn, and otherwise for the one that the mapping has itself. -/
theorem Turns.madeFor {before : List Turn} {g' : Fleet} (hbefore : Turns s (some places) before f g)
    (hturn : Turns s (some places) [t] g g') (hafter : Turns s (some places) more g' f')
    (distinct : (places.map f.designationAt?).Nodup) (owns : f.Owns t.place own)
    (refers : f'.RefersTo t.place target.name) (hp : orgPlace ∈ places)
    (htarget : f.records[orgPlace]? = some target) (hkind : target.kind = .organization)
    {q : Request} (hq : q ∈ t.requests) :
    g.NamedAt orgPlace ∧ q.MadeFor target.settledName ∨ ¬g.NamedAt orgPlace ∧ q.MadeFor own := by
  have start : f.Holds t.place orgPlace own target := by
    obtain ⟨r, p, o, hr, hmapping, hown⟩ := owns.mapping
    refine ⟨⟨target, htarget, .refl target⟩, r,
      ⟨"org", .organization, .externalName, p.org, p.orgRef, p.orgSelector⟩, hr, ?_, rfl, .inl hown⟩
    rw [hmapping]
    exact List.mem_cons_of_mem _ List.mem_cons_self
  have holds := hbefore.holds (hturn.append hafter) start distinct refers hp hkind
  have hdistinct := hbefore.distinct distinct
  obtain ⟨r, x, hr, hx, hkey, -⟩ := holds.held
  obtain ⟨-, hrequests, -⟩ := hturn.of_some hr
  have hqw : q ∈ (g.work r).requests s (some (g.resolver places)) := hrequests ▸ hq
  have hk : Kind.mapping ∈ s.kinds := by
    obtain ⟨p, o, hmapping, -⟩ := Resource.mapping_of_pointer hx hkey
    have hhandled : r.kind ∈ s.kinds := (Work.mem_requests hqw).1
    unfold Record.kind at hhandled
    rw [hmapping] at hhandled
    exact hhandled
  obtain ⟨r₁, x₁, hr₁, hx₁, hkey₁, hvalue⟩ :=
    holds.resolved hturn hafter hdistinct refers hp hkind hk
  rw [hr] at hr₁
  cases hr₁
  have made := Work.madeFor_requests hqw hx₁ hkey₁
  rcases hvalue with ⟨named, hv⟩ | ⟨unnamed, hv⟩
  · exact .inl ⟨named, hv ▸ made⟩
  · exact .inr ⟨unnamed, hv ▸ made⟩

end holds

/-! ## The convergence -/

/-- **The organization of a mapping in any order of the kinds.** Over records with different designations and
names, whatever the answers and however the convergence ends, the requests about a mapping that refers to an
organization of the list are made for that organization, by the name that it has from its first turn on, if
it has an external name at the start or its kind comes before the mappings. If it has none and its kind comes
after them, they are made for the organization that the mapping has itself. In an order that names kinds more
than once it is one of the two. -/
theorem converge_madeFor (s : Setup) (places : Places) (maxPasses : Option Int) (order : List String)
    (f : Fleet) (distinct : (places.map f.designationAt?).Nodup)
    (named : ∀ place ∈ places, ∀ r, f.records[place]? = some r → r.name ≠ "")
    (complete : ∀ k : Kind, k.name ∈ order) :
    ∃ turns, Turns s (some places) turns f (f.converge s none places maxPasses order).2 ∧
      (∀ t ∈ turns, t.place ∈ places) ∧
      (f.converge s none places maxPasses order).2.wire.sent =
        f.wire.sent ++ turns.flatMap (·.requests) ∧
      ∀ t ∈ turns, ∀ (own : Value) (orgPlace : Nat) (target : Record), f.Owns t.place own →
        (f.converge s none places maxPasses order).2.RefersTo t.place target.name →
        orgPlace ∈ places → f.records[orgPlace]? = some target → target.kind = .organization →
        ∀ q ∈ t.requests,
          (target.externalName.truthy = true ∨
              order.idxOf Kind.organization.name < order.idxOf Kind.mapping.name →
            q.MadeFor target.settledName) ∧
          (target.externalName.truthy = false → order.Nodup →
              order.idxOf Kind.mapping.name < order.idxOf Kind.organization.name → q.MadeFor own) ∧
          (q.MadeFor target.settledName ∨ q.MadeFor own) := by
  obtain ⟨turns, hturns, hstaged⟩ := converge_staged s none maxPasses (List.Nodup.of_map _ distinct)
    (fun r _ => complete r.kind)
  refine ⟨turns, hturns, fun t ht => (hstaged.of_mem ht).2.1, hturns.sent, ?_⟩
  intro t ht own orgPlace target owns refers hp htarget hkind q hq
  obtain ⟨before, after, g, g', parts, hbefore, hturn, hafter⟩ := hturns.of_mem ht
  have made := hbefore.madeFor hturn hafter distinct owns refers hp htarget hkind hq
  have hmapping : f.kindAt? t.place = some .mapping := by
    obtain ⟨r, p, o, hr, hresource, -⟩ := owns.mapping
    unfold kindAt? Record.kind
    rw [hr, Option.map_some, hresource]
    rfl
  have horg : f.kindAt? orgPlace = some .organization := by
    unfold kindAt?
    rw [htarget, Option.map_some, hkind]
  refine ⟨fun known => ?_, fun unnamed unrepeated first => ?_, made.imp And.right And.right⟩
  · -- the organization has a name at the turn
    have namedAt : g.NamedAt orgPlace := by
      rcases known with ht | first
      · exact hbefore.keeps_namedAt htarget hkind ⟨target, htarget, ht⟩
      · obtain ⟨u, hu, rfl, result, hok⟩ := hstaged.earlier parts hmapping first hp horg
        exact hbefore.namedAt hu hok htarget hkind (named _ hp target htarget)
    rcases made with ⟨-, hmade⟩ | ⟨unnamed, -⟩
    · exact hmade
    · exact absurd namedAt unnamed
  · -- the organization had no turn before
    have untouched : g.records[orgPlace]? = some target := by
      rw [hbefore.records_of_notMem fun u hu hplace =>
        hstaged.later unrepeated parts hmapping first u hu (hplace ▸ horg), htarget]
    rcases made with ⟨⟨r, hr, ht⟩, -⟩ | ⟨-, hmade⟩
    · rw [untouched] at hr
      cases hr
      rw [unnamed] at ht
      cases ht
    · exact hmade

/-- A record that is marked for deletion. -/
def marked (name : String) (annotations : List (String × Value)) (resource : Resource) : Record :=
  { Record.ofName name resource with metadata := ⟨name, [], annotations, some (.ofSeconds 0 0)⟩ }

/-- An organization without an external name. -/
def unnamed : Record := marked "acme" [] (.organization ⟨none⟩ .empty)

/-- The organization, and a mapping with an id that refers to it, both marked for deletion. -/
def departing (answers : List Answer) : Fleet :=
  ⟨[unnamed, marked "all" [(externalNameKey, .text "m1")] (.mapping ⟨.text "b1", none, none, "db", .null,
    .text "", some ⟨"acme"⟩, none, "rp"⟩ .empty)], .ofAnswers answers, []⟩

/-- The answers by which the organization is found and deleted. -/
def organizationFound : List Answer :=
  [.ofValue (.object [("orgs", .list [.object [("id", .text "o1")]])]), .response 204 ""]

/-- The answers by which the mapping is found and deleted. -/
def mappingFound : List Answer :=
  [.ofValue (.object [("content", .list [.object [("id", .text "m1")]])]), .response 204 ""]

/-- What both come to in an order of the kinds. -/
def departed (order : List String) (answers : List Answer) : Fleet :=
  ((departing answers).converge (.ofClient ⟨"http://db", "", 30⟩) none [0, 1] none order).2

/-- The order of dependence. -/
def byDependence : List String := Kind.all.map Kind.name

/-- In the order of dependence, the requests about the mapping are made for the organization that it refers
to. -/
theorem converge_madeFor_departing :
    (departed byDependence (organizationFound ++ mappingFound)).wire.sent.map
          (fun q => (q.method, q.url, q.query)) =
        [("GET", "http://db/orgs", [("org", .text "acme")]), ("DELETE", "http://db/orgs/o1", []),
          ("GET", "http://db/dbrps", [("org", .text "acme"), ("id", .text "m1")]),
          ("DELETE", "http://db/dbrps/m1", [("org", .text "acme")])] ∧
      (departing (organizationFound ++ mappingFound)).Owns 1 (.text "") ∧
      (departed byDependence (organizationFound ++ mappingFound)).RefersTo 1 "acme" ∧
      ∃ turns : List Turn,
        (departed byDependence (organizationFound ++ mappingFound)).wire.sent =
          (departing (organizationFound ++ mappingFound)).wire.sent ++ turns.flatMap (·.requests) ∧
        ∀ t ∈ turns, t.place = 1 → ∀ q ∈ t.requests, q.MadeFor (.text "acme") := by
  have owns : (departing (organizationFound ++ mappingFound)).Owns 1 (.text "") := by
    unfold Owns; decide +kernel
  have refers : (departed byDependence (organizationFound ++ mappingFound)).RefersTo 1 "acme" := by
    unfold RefersTo; decide +kernel
  have different : ([0, 1].map (departing (organizationFound ++ mappingFound)).designationAt?).Nodup := by
    decide +kernel
  have named : ∀ place ∈ [0, 1], ∀ r,
      (departing (organizationFound ++ mappingFound)).records[place]? = some r → r.name ≠ "" := by
    intro place hp r hr
    rcases List.mem_cons.mp hp with rfl | hp
    · cases hr; decide
    · rw [List.mem_singleton.mp hp] at hr
      cases hr; decide
  have settled : unnamed.settledName = .text "acme" := by decide +kernel
  have all (k : Kind) : k.name ∈ byDependence := by cases k <;> decide
  refine ⟨by decide +kernel, owns, refers, ?_⟩
  unfold departed
  obtain ⟨turns, -, -, hsent, hmade⟩ := converge_madeFor (.ofClient ⟨"http://db", "", 30⟩) [0, 1] none
    byDependence (departing (organizationFound ++ mappingFound)) different named all
  refine ⟨turns, hsent, fun t ht hplace q hq => ?_⟩
  rw [← hplace] at owns refers
  unfold departed at refers
  have made := (hmade t ht (.text "") 0 unnamed owns refers List.mem_cons_self rfl rfl
    q hq).1
  rw [settled] at made
  exact made (.inr (by decide))

/-- In the order of deletion they are made for no organization. -/
theorem converge_forgets :
    let order := byDependence.reverse
    let answers := mappingFound ++ organizationFound
    (∀ k : Kind, k.name ∈ order) ∧ ([0, 1].map (departing answers).designationAt?).Nodup ∧
      (departing answers).records.map (·.name) = ["acme", "all"] ∧
      (departed order answers).RefersTo 1 "acme" ∧
      (departed order answers).wire.sent.map (fun q => (q.method, q.url, q.query)) =
        [("GET", "http://db/dbrps", [("id", .text "m1")]), ("DELETE", "http://db/dbrps/m1", []),
          ("GET", "http://db/orgs", [("org", .text "acme")]), ("DELETE", "http://db/orgs/o1", [])] ∧
      ¬∀ q ∈ (departed order answers).wire.sent, q.url = "http://db/dbrps" →
        q.MadeFor (.text "acme") := by
  intro order answers
  have all (k : Kind) : k.name ∈ order := by cases k <;> decide
  exact ⟨all, by decide +kernel, by decide +kernel, by unfold RefersTo; decide +kernel,
    by decide +kernel, by decide +kernel⟩

end Fleet

end InfluxKeeper
