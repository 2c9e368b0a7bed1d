import SensorGateway.Gateway.Dispatch

/-!
The work of the gateway over many envelopes. Envelopes arrive while the gateway
is at work, time goes on and links come and go; all of this is laid down in
rounds, of which each handles at most one envelope. A program that panics ends
there and then, so that rounds are for as long as it does not. To work through a
queue on which nothing arrives takes no rounds: that loop goes on until nothing
is left, however long that takes.
-/

namespace SensorGateway.Gateway

/-- What the outside world does in the time in which at most one envelope is
handled. -/
structure Round where
  /-- What is put on the queue before the envelope is taken. -/
  arrivals : List Envelope := []
  circumstances : Circumstances

/-- Notes what happened before. -/
def Outcome.after (events : List Event) (outcome : Outcome) : Outcome :=
  { outcome with
    progress := { outcome.progress with events := events ++ outcome.progress.events } }

/-- Works through rounds as long as the gateway goes on. -/
def serve : List Round → Gateway → Outcome
  | [], gateway => .proceed (Progress.start gateway)
  | round :: rounds, gateway =>
      let gateway := round.arrivals.foldl put gateway
      match gateway.dispatchNext round.circumstances with
      | none => serve rounds gateway
      | some outcome =>
          match outcome.result with
          | .ok .continue =>
              (serve rounds outcome.progress.gateway).after outcome.progress.events
          | _ => outcome

/-- How working through a queue ends. -/
inductive Ending where
  | returned (outcome : Outcome)
  /-- The program panicked when it had come this far. -/
  | panicked (progress : Progress)

/-- Notes what happened before. -/
def Ending.after (events : List Event) : Ending → Ending
  | returned outcome => .returned (outcome.after events)
  | panicked progress => .panicked { progress with events := events ++ progress.events }

/-- Handles what is on the queue, until it is empty or the gateway stops; the
circumstances are those of one envelope after the other. A loop without end would
give nothing. -/
def drain (circumstances : Nat → Circumstances) (gateway : Gateway) : Option Ending :=
  if gateway.panicsNext (circumstances 0) then some (.panicked (Progress.start gateway))
  else
    match gateway.dispatchNext (circumstances 0) with
    | none => some (.returned (.proceed (Progress.start gateway)))
    | some outcome =>
        match outcome.result with
        | .ok .continue => do
            let ending ← outcome.progress.gateway |>.drain fun n => circumstances (n + 1)
            some (ending.after outcome.progress.events)
        | _ => some (.returned outcome)
partial_fixpoint

/-- Has the uplink ask the broker to connect it, with which everything
begins. -/
def bootstrap (circumstances : Circumstances) (gateway : Gateway) :
    Progress × Except GatewayError Unit :=
  (Progress.start gateway).stepUplink (gateway.uplinkContext circumstances) Uplink.connect

/-- Closes everything if the gateway has failed. -/
def Outcome.closeOnError (circumstances : Circumstances) (outcome : Outcome) : Outcome :=
  match outcome.result with
  | .error _ => { outcome with progress := shutDownAll circumstances outcome.progress }
  | .ok _ => outcome

/-- A whole run: the uplink is brought up, then envelopes are handled until the
gateway is told to stop. Whatever goes wrong ends the run too, and then
everything that is open is closed. A run that continues waits for more
envelopes. -/
def run (opening : Circumstances) (rounds : List Round) (closing : Circumstances)
    (gateway : Gateway) : Outcome :=
  let begun := Outcome.ofUplink (gateway.bootstrap opening)
  let served :=
    match begun.result with
    | .error _ => begun
    | .ok _ => (begun.progress.gateway.serve rounds).after begun.progress.events
  served.closeOnError closing

end SensorGateway.Gateway
