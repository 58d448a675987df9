import InfluxKeeper.Proofs.Fleet.Turns
import InfluxKeeper.Proofs.Reconcile.Rewriting

/-!
# Sessions with rewritten requests

A session is any sequence of calls, operations and surveys on records. Each `Step` gives a reply, and the next one
goes on with the records, the wire and the events that it left, also after a fault.

> `Session.run_rewritten`: a session with a client that rewrites requests gives the same replies, leaves the same
> records and publishes the same events as one with the client whose requests are rewritten.

The loops of a convergence are followed one by one: what holds of one pass over a record (`reconcileAt_rewritten`)
holds of each loop over it.
-/

namespace InfluxKeeper

open Api

variable {h : Request → Request} {c' : Client} {s : Setup} {names : Option Places}

namespace Fleet

/-- A fleet on a wire whose requests so far were rewritten. -/
def rewritten (h : Request → Request) (f : Fleet) : Fleet := { f with wire := f.wire.rewritten h }

/-- The end of a step, with the requests so far rewritten. -/
def rewrittenEnd {α : Type} (h : Request → Request) (e : α × Fleet) : α × Fleet := (e.1, e.2.rewritten h)

@[simp] theorem records_rewritten (h : Request → Request) (f : Fleet) :
    (f.rewritten h).records = f.records := rfl

theorem resolver_rewritten (h : Request → Request) (f : Fleet) : (f.rewritten h).resolver = f.resolver := rfl

/-- What the work on a record keeps, work at a place keeps. -/
theorem workAt_rewritten {α : Type} {work work' : Work → Except Fault α × Work}
    (same : ∀ w : Work, work' (w.rewritten h) = Work.rewrittenEnd h (work w)) (f : Fleet) (place : Nat) :
    (f.rewritten h).workAt place work' = rewrittenEnd h (f.workAt place work) := by
  unfold workAt
  rw [records_rewritten]
  cases f.records[place]? with
  | none => rfl
  | some r =>
    have hwork := same ⟨r, f.wire, f.events⟩
    unfold Work.rewritten at hwork
    dsimp only at hwork ⊢
    rw [show (f.rewritten h).wire = f.wire.rewritten h from rfl,
      show (f.rewritten h).events = f.events from rfl, hwork]
    rfl

/-- Looking at records looks at the first of them, and goes on unless that ends in a fault. -/
theorem look_cons_eq (s : Setup) (places : Places) (number place : Nat) (rest : List (Nat × Nat))
    (sights : List (Nat × Sight)) (f : Fleet) :
    look s places ((number, place) :: rest) sights f =
      match f.observeAt s (some places) place with
      | (.error fault, f) => (.error fault, f)
      | (.ok sight, f) => look s places rest (sights ++ [(number, sight)]) f := rfl

section Rewrites

variable (rewrites : Client.Rewrites h s.client c')

include rewrites

theorem reconcileAt_rewritten (f : Fleet) (place : Nat) :
    (f.rewritten h).reconcileAt (s.withClient c') names place
      = rewrittenEnd h (f.reconcileAt s names place) :=
  workAt_rewritten (fun w => Work.reconcile_rewritten rewrites (names.map f.resolver) w) f place

theorem reconcileEach_rewritten (places : Places) (f : Fleet) :
    reconcileEach (s.withClient c') names places (f.rewritten h)
      = rewrittenEnd h (reconcileEach s names places f) := by
  induction places generalizing f with
  | nil => rfl
  | cons place rest ih =>
    unfold reconcileEach
    rw [reconcileAt_rewritten rewrites]
    rcases f.reconcileAt s names place with ⟨outcome, g⟩
    unfold rewrittenEnd
    dsimp only
    rw [ih g]
    rfl

theorem reconcileAll_rewritten (places : Places) (f : Fleet) :
    (f.rewritten h).reconcileAll (s.withClient c') names places
      = rewrittenEnd h (f.reconcileAll s names places) := by
  unfold reconcileAll
  rw [reconcileEach_rewritten rewrites, Setup.maxConcurrent_withClient]
  split
  · rfl
  · rfl

theorem passes_rewritten (limit : Nat) (pending : List (Nat × Nat)) (results : Results) (f : Fleet) :
    passes (s.withClient c') names limit pending results (f.rewritten h)
      = rewrittenEnd h (passes s names limit pending results f) := by
  induction limit generalizing pending results f with
  | zero => rfl
  | succ limit ih =>
    cases pending with
    | nil => rfl
    | cons e rest =>
      unfold passes
      rw [reconcileAll_rewritten rewrites]
      rcases hpass : f.reconcileAll s names ((e :: rest).map (·.2)) with ⟨outcome, g⟩
      rw [hpass]
      cases outcome with
      | error fault => rfl
      | ok outcomes => exact ih _ _ g

theorem passesByKind_rewritten (limit : Nat) (numbered : List (Nat × Nat)) (order : List String)
    (results : Results) (f : Fleet) :
    passesByKind (s.withClient c') names limit numbered order results (f.rewritten h)
      = rewrittenEnd h (passesByKind s names limit numbered order results f) := by
  induction order generalizing results f with
  | nil => rfl
  | cons kind rest ih =>
    unfold passesByKind
    dsimp only
    rw [records_rewritten, passes_rewritten rewrites]
    rcases hpasses : passes s names limit
      (numbered.filter fun e => (f.records[e.2]?).any (·.kind.name = kind)) results f with ⟨outcome, g⟩
    rw [hpasses]
    cases outcome with
    | error fault => rfl
    | ok results => exact ih results g

theorem converge_rewritten (places : Places) (maxPasses : Option Int) (order : List String) (f : Fleet) :
    (f.rewritten h).converge (s.withClient c') names places maxPasses order
      = rewrittenEnd h (f.converge s names places maxPasses order) := by
  unfold converge
  dsimp only
  rw [records_rewritten, show passLimit (s.withClient c') maxPasses = passLimit s maxPasses from rfl,
    passesByKind_rewritten rewrites]
  split
  · rfl
  · rcases hpasses : passesByKind s (some (names.getD places)) (passLimit s maxPasses)
      (places.zipIdx.map fun e => (e.2, e.1)) order [] f with ⟨outcome, g⟩
    rw [hpasses]
    cases outcome <;> rfl

theorem observeAt_rewritten (f : Fleet) (place : Nat) :
    (f.rewritten h).observeAt (s.withClient c') names place = rewrittenEnd h (f.observeAt s names place) := by
  refine workAt_rewritten (fun w => ?_) f place
  rw [resolver_rewritten, Work.observe_rewritten rewrites]
  rfl

theorem look_rewritten (places : Places) (numbered : List (Nat × Nat)) (sights : List (Nat × Sight))
    (f : Fleet) :
    look (s.withClient c') places numbered sights (f.rewritten h)
      = rewrittenEnd h (look s places numbered sights f) := by
  induction numbered generalizing sights f with
  | nil => rfl
  | cons e rest ih =>
    obtain ⟨number, place⟩ := e
    rw [look_cons_eq, look_cons_eq, observeAt_rewritten rewrites]
    rcases f.observeAt s (some places) place with ⟨outcome, g⟩
    cases outcome with
    | error fault => rfl
    | ok sight => exact ih _ g

theorem observeAll_rewritten (places : Places) (f : Fleet) :
    (f.rewritten h).observeAll (s.withClient c') places = rewrittenEnd h (f.observeAll s places) := by
  unfold observeAll
  dsimp only
  rw [records_rewritten, look_rewritten rewrites]
  rcases hlook : look s places (Kind.all.flatMap fun kind =>
    (places.zipIdx.map fun e => (e.2, e.1)).filter fun e => (f.records[e.2]?).any (·.kind = kind)) [] f
    with ⟨outcome, g⟩
  rw [hlook]
  cases outcome <;> rfl

end Rewrites

end Fleet

/-! ## Sessions -/

namespace Session

/-- A step of a session: a call of the server, an operation on records, or a survey of them. -/
inductive Step
  | call (call : Call)
  | operate (op : Operation)
  | survey (places : Places)
  deriving DecidableEq

/-- What a step gives. -/
inductive Reply
  | answered (outcome : Except Fault Value)
  | seen (outcome : Option (Except Failure Seen))
  | reconciled (outcome : Except Fault Result)
  | allReconciled (outcome : Except Fleet.Halt (List Result))
  | surveyed (outcome : Except Fault (List Fleet.Sight))

end Session

open Session

/-- What an operation gives. An observation of no record gives nothing. -/
def Operation.reply (s : Setup) : Operation → Fleet → Reply
  | observe names place, f =>
    .seen ((f.records[place]?).map fun r => ((f.work r).observe s (names.map f.resolver)).1)
  | reconcile names place, f => .reconciled (f.reconcileAt s names place).1
  | reconcileAll names places, f => .allReconciled (f.reconcileAll s names places).1
  | converge names places maxPasses order, f => .allReconciled (f.converge s names places maxPasses order).1

namespace Session

/-- Takes a step. -/
def Step.take (s : Setup) : Step → Fleet → Reply × Fleet
  | .call asked, f =>
    let (outcome, wire) := f.wire.call s.client asked
    (.answered outcome, { f with wire })
  | .operate op, f => (op.reply s f, op.run s f)
  | .survey places, f =>
    let (outcome, f) := f.observeAll s places
    (.surveyed outcome, f)

/-- Takes steps, one after the other. -/
def run (s : Setup) : List Step → Fleet → List Reply × Fleet
  | [], f => ([], f)
  | step :: rest, f =>
    let (reply, f) := step.take s f
    let (replies, f) := run s rest f
    (reply :: replies, f)

end Session

section Rewrites

variable (rewrites : Client.Rewrites h s.client c')

include rewrites

theorem Operation.reply_rewritten (op : Operation) (f : Fleet) :
    op.reply (s.withClient c') (f.rewritten h) = op.reply s f := by
  cases op with
  | observe names place =>
    refine congrArg (fun look => Reply.seen ((f.records[place]?).map look)) (funext fun r => ?_)
    rw [show (f.rewritten h).work r = (f.work r).rewritten h from rfl, Work.observe_rewritten rewrites]
    rfl
  | reconcile names place =>
    exact congrArg (fun e => Reply.reconciled e.1) (Fleet.reconcileAt_rewritten rewrites f place)
  | reconcileAll names places =>
    exact congrArg (fun e => Reply.allReconciled e.1) (Fleet.reconcileAll_rewritten rewrites places f)
  | converge names places maxPasses order =>
    exact congrArg (fun e => Reply.allReconciled e.1)
      (Fleet.converge_rewritten rewrites places maxPasses order f)

theorem Operation.run_rewritten (op : Operation) (f : Fleet) :
    op.run (s.withClient c') (f.rewritten h) = (op.run s f).rewritten h := by
  cases op with
  | observe names place => exact congrArg Prod.snd (Fleet.observeAt_rewritten rewrites f place)
  | reconcile names place => exact congrArg Prod.snd (Fleet.reconcileAt_rewritten rewrites f place)
  | reconcileAll names places => exact congrArg Prod.snd (Fleet.reconcileAll_rewritten rewrites places f)
  | converge names places maxPasses order =>
    exact congrArg Prod.snd (Fleet.converge_rewritten rewrites places maxPasses order f)

theorem Session.take_rewritten (step : Step) (f : Fleet) :
    step.take (s.withClient c') (f.rewritten h) = Fleet.rewrittenEnd h (step.take s f) := by
  cases step with
  | call asked =>
    exact congrArg (fun e : Except Fault Value × Wire => (Reply.answered e.1, { f with wire := e.2 }))
      (Wire.call_rewritten rewrites f.wire asked)
  | operate op =>
    exact Prod.ext (op.reply_rewritten rewrites f) (op.run_rewritten rewrites f)
  | survey places =>
    exact congrArg (fun e : Except Fault (List Fleet.Sight) × Fleet => (Reply.surveyed e.1, e.2))
      (Fleet.observeAll_rewritten rewrites places f)

/-- **A session does not depend on what requests look like.** -/
theorem Session.run_rewritten (steps : List Step) (f : Fleet) :
    run (s.withClient c') steps (f.rewritten h) = Fleet.rewrittenEnd h (run s steps f) := by
  induction steps generalizing f with
  | nil => rfl
  | cons step rest ih =>
    unfold run
    rw [take_rewritten rewrites]
    rcases step.take s f with ⟨reply, g⟩
    unfold Fleet.rewrittenEnd
    dsimp only
    rw [ih g]
    rfl

end Rewrites

/-! ## What requests look like -/

/-- All requests of calls are made by one function of the client. So if that rewrites, the client does. -/
theorem Api.Client.rewrites_of_request {c c' : Client}
    (same : ∀ method path query body, c'.request method path query body = h (c.request method path query body)) :
    Client.Rewrites h c c' := by
  intro call
  cases call with
  | updateOrganization body =>
    unfold Call.request
    dsimp only
    cases updateParts ["name", "description"] body with
    | error fault => rfl
    | ok parts => exact congrArg Except.ok (same ..)
  | updateBucket body =>
    unfold Call.request
    dsimp only
    cases updateParts ["name", "description", "retentionRules"] body with
    | error fault => rfl
    | ok parts => exact congrArg Except.ok (same ..)
  | _ => exact congrArg Except.ok (same ..)

namespace Fleet

theorem rewritten_of_unsent {f : Fleet} (unsent : f.wire.sent = []) (h : Request → Request) :
    f.rewritten h = f := by
  unfold rewritten Wire.rewritten
  rw [unsent, List.map_nil, ← unsent]

end Fleet

/-- Every request of a session carries the header fields of the client. -/
theorem Session.headers_run (steps : List Step) {f : Fleet} (unsent : f.wire.sent = []) :
    ∀ q ∈ (run s steps f).2.wire.sent, q.headers = s.client.headers := by
  -- the client sends what it sends also if it writes its header fields over them
  have rewrites : Client.Rewrites (fun q => { q with headers := s.client.headers }) s.client s.client :=
    Client.rewrites_of_request fun _ _ _ _ => rfl
  have hrun := run_rewritten rewrites steps f
  rw [Fleet.rewritten_of_unsent unsent] at hrun
  have hsent : (run s steps f).2.wire.sent
      = (run s steps f).2.wire.sent.map fun q => { q with headers := s.client.headers } :=
    congrArg (fun e => e.2.wire.sent) hrun
  intro q hq
  rw [hsent] at hq
  obtain ⟨q', -, rfl⟩ := List.mem_map.mp hq
  rfl

end InfluxKeeper
