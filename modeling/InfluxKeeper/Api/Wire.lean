import InfluxKeeper.Api.Call

/-!
# The wire

What a client has sent so far and what its requests meet. A script says for every request, by its number,
when it is sent and what comes back. The time on a wire is that of its last request.
-/

namespace InfluxKeeper.Api

/-- The time at which a request is sent, and what comes back. -/
structure Exchange where
  time : Timestamp
  answer : Answer
  deriving DecidableEq, Repr

/-- A wire: the time, the requests sent so far, and the exchanges that requests meet by their numbers. -/
structure Wire where
  now : Timestamp
  sent : List Request
  script : Nat → Exchange

/-- Sends a request. -/
def Wire.send (w : Wire) (r : Request) : Answer × Wire :=
  let exchange := w.script w.sent.length
  (exchange.answer, { w with now := exchange.time, sent := w.sent ++ [r] })

/-- A request sent is the last one sent. -/
@[simp] theorem Wire.sent_send (w : Wire) (r : Request) : (w.send r).2.sent = w.sent ++ [r] := rfl

/-- Makes a call. A call that names nothing to address sends no request. -/
def Wire.call (w : Wire) (c : Client) (call : Call) : Except Fault Value × Wire :=
  match call.request c with
  | .error fault => (.error fault, w)
  | .ok request =>
    let (answer, w) := w.send request
    (call.outcome answer, w)

end InfluxKeeper.Api
