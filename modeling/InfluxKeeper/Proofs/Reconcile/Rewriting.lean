import InfluxKeeper.Proofs.Reconcile.Steps

/-!
# Rewritten requests

What comes back for a request is told by its number, so nothing that is made of answers can depend on what the
requests look like. If one client sends what another one sends, but rewritten, then all that they bring about is
the same, and the requests on the wire are rewritten.

> `reconcile_rewritten`, `observe_rewritten`: a reconcile, or an observation, with a client that rewrites
> requests, on a wire whose requests were rewritten, does the same and leaves a wire whose requests are rewritten.

There are two uses of this. Clients that differ by their token rewrite a header field. And a client that rewrites
its own requests to what they are anyway shows what they all look like.
-/

namespace InfluxKeeper

open Api

variable {h : Request → Request} {c c' : Client}

/-- A client that sends what another one sends, but rewritten. -/
def Api.Client.Rewrites (h : Request → Request) (c c' : Client) : Prop :=
  ∀ call : Call, call.request c' = (call.request c).map h

/-- A wire whose requests so far were rewritten. -/
def Api.Wire.rewritten (h : Request → Request) (w : Wire) : Wire := { w with sent := w.sent.map h }

theorem Api.Wire.call_rewritten (rewrites : Client.Rewrites h c c') (w : Wire) (call : Call) :
    (w.rewritten h).call c' call = ((w.call c call).1, (w.call c call).2.rewritten h) := by
  unfold Wire.call
  rw [rewrites]
  cases call.request c with
  | error fault => rfl
  | ok q =>
    have hsend : (w.rewritten h).send (h q) = ((w.send q).1, (w.send q).2.rewritten h) := by
      unfold send rewritten
      simp
    show (call.outcome ((w.rewritten h).send (h q)).1, ((w.rewritten h).send (h q)).2) = _
    rw [hsend]

namespace Work

/-- Work on a wire whose requests so far were rewritten. -/
def rewritten (h : Request → Request) (w : Work) : Work := { w with wire := w.wire.rewritten h }

/-- The end of a step, with the requests so far rewritten. -/
def rewrittenEnd {α : Type} (h : Request → Request) (e : α × Work) : α × Work := (e.1, e.2.rewritten h)

@[simp] theorem record_rewritten (h : Request → Request) (w : Work) :
    (w.rewritten h).record = w.record := rfl

theorem prepare_rewritten (h : Request → Request) (w : Work) (resolver : Option Resolver) :
    (w.rewritten h).prepare resolver = (w.prepare resolver).rewritten h := rfl

theorem setConditions_rewritten (h : Request → Request) (w : Work) (new : List (Timestamp → Condition)) :
    (w.rewritten h).setConditions new = (w.setConditions new).rewritten h := rfl

variable {s : Setup} {resolver : Option Resolver}

theorem call_rewritten (rewrites : Client.Rewrites h c c') (w : Work) (call : Call) :
    (w.rewritten h).call c' call = rewrittenEnd h (w.call c call) := by
  unfold Work.call rewritten rewrittenEnd
  dsimp only
  rw [Wire.call_rewritten rewrites]
  rfl

theorem look_rewritten (rewrites : Client.Rewrites h c c') (w : Work) :
    (w.rewritten h).look c' = rewrittenEnd h (w.look c) := by
  unfold look
  rw [record_rewritten]
  cases w.record.lookup? with
  | none => rfl
  | some call =>
    dsimp only
    rw [call_rewritten rewrites]
    unfold rewrittenEnd
    dsimp only
    rw [record_rewritten]
    cases (w.call c call).2.record.found? (w.call c call).1 with
    | error failure => rfl
    | ok found => cases found <;> rfl

theorem mutate_rewritten (rewrites : Client.Rewrites h c c') (m : Mutation) (w : Work) :
    (w.rewritten h).mutate c' m = rewrittenEnd h (w.mutate c m) := by
  unfold mutate
  rw [call_rewritten rewrites]
  unfold rewrittenEnd
  dsimp only
  rw [record_rewritten, record_rewritten]
  cases (w.call c (w.record.mutation m)).2.record.afterMutation m (w.call c (w.record.mutation m)).1 <;> rfl

theorem settle_rewritten (rewrites : Client.Rewrites h c c') (seen : Seen) (w : Work) :
    (w.rewritten h).settle c' seen = rewrittenEnd h (w.settle c seen) := by
  unfold settle
  dsimp only
  rw [record_rewritten, setConditions_rewritten, record_rewritten]
  cases plan? (w.setConditions (readiness w.record.deleting seen)).record.deleting seen with
  | none => rfl
  | some m =>
    dsimp only
    rw [mutate_rewritten rewrites]
    rcases (w.setConditions (readiness w.record.deleting seen)).mutate c m with ⟨outcome, w₁⟩
    cases outcome with
    | error failure => cases failure <;> rfl
    | ok _ => rfl

theorem pass_rewritten (rewrites : Client.Rewrites h c c') (w : Work) :
    (w.rewritten h).pass c' resolver = rewrittenEnd h (w.pass c resolver) := by
  unfold pass
  rw [prepare_rewritten, look_rewritten rewrites]
  rcases (w.prepare resolver).look c with ⟨outcome, w₁⟩
  cases outcome with
  | error failure => cases failure <;> rfl
  | ok seen => exact settle_rewritten rewrites seen w₁

end Work

/-- A setup with another client. -/
def Setup.withClient (s : Setup) (c : Client) : Setup := { s with client := c }

@[simp] theorem Setup.kinds_withClient (s : Setup) (c : Client) : (s.withClient c).kinds = s.kinds := rfl

@[simp] theorem Setup.maxConcurrent_withClient (s : Setup) (c : Client) :
    (s.withClient c).maxConcurrent = s.maxConcurrent := rfl

namespace Work

variable {s : Setup} (rewrites : Client.Rewrites h s.client c')

include rewrites

/-- **A reconcile does not depend on what requests look like.** -/
theorem reconcile_rewritten (resolver : Option Resolver) (w : Work) :
    (w.rewritten h).reconcile (s.withClient c') resolver = rewrittenEnd h (w.reconcile s resolver) := by
  unfold reconcile ifHandled
  rw [record_rewritten, Setup.kinds_withClient]
  split
  · rfl
  · exact pass_rewritten rewrites w

/-- **An observation does not depend on what requests look like.** -/
theorem observe_rewritten (resolver : Option Resolver) (w : Work) :
    (w.rewritten h).observe (s.withClient c') resolver = rewrittenEnd h (w.observe s resolver) := by
  unfold observe ifHandled
  rw [record_rewritten, Setup.kinds_withClient]
  split
  · rfl
  · exact look_rewritten rewrites (w.prepare resolver)

end Work

end InfluxKeeper
