import SensorGateway.Proofs.Config.Validation
import SensorGateway.Proofs.Queue
import SensorGateway.Proofs.Gateway.Stop
import SensorGateway.Proofs.Gateway.UplinkTurns
import SensorGateway.Proofs.Gateway.World

/-!
The journal of a gateway: what was put on its queue from outside and what it took from the
queue and handled, in this order. It says what `Gateway.serve` leaves out, in which state the
gateway was whenever it handled an envelope. `Works` are the journals that a gateway may have
written between two of its states, and what one entry says leads to what the whole journal
says by induction on them.
-/

namespace SensorGateway.Gateway

inductive Entry where
  /-- An envelope was put on the queue from outside. -/
  | arrived (envelope : Envelope)
  /-- A gateway took an envelope, which is not on its queue any more, and handled it. -/
  | handled (gateway : Gateway) (handling : Handling)

namespace Entry

def puts : Entry → List Envelope
  | arrived envelope => [envelope]
  | handled gateway handling => gateway.puts handling

def taken? : Entry → Option Envelope
  | arrived _ => none
  | handled _ handling => some handling.envelope

def events : Entry → List Event
  | arrived _ => []
  | handled gateway handling =>
      (gateway.dispatch handling.circumstances handling.envelope).progress.events

end Entry

def journal : List Round → Gateway → List Entry
  | [], _ => []
  | round :: rounds, gateway =>
      let waiting := round.arrivals.foldl put gateway
      round.arrivals.map .arrived ++
        match waiting.queue.take? with
        | none => journal rounds waiting
        | some (envelope, queue) =>
            let outcome := { waiting with queue }.dispatch round.circumstances envelope
            .handled { waiting with queue } ⟨round.circumstances, envelope⟩ ::
              match outcome.result with
              | .ok .continue => journal rounds outcome.progress.gateway
              | _ => []

def journalIn (opening : Circumstances) (rounds : List Round) (gateway : Gateway) : List Entry :=
  let (begun, result) := gateway.bootstrap opening
  match result with
  | .error _ => []
  | .ok _ => begun.gateway.journal rounds

/-- How a gateway comes from one state to another, and what it writes down meanwhile. -/
inductive Works : Gateway → List Entry → Gateway → Prop where
  | rest (gateway : Gateway) : Works gateway [] gateway
  | arrive {gateway last : Gateway} {envelope : Envelope} {later : List Entry}
      (hlater : Works (gateway.put envelope) later last) :
      Works gateway (.arrived envelope :: later) last
  | handle {gateway last : Gateway} {handling : Handling} {queue : Queue} {later : List Entry}
      (htake : gateway.queue.take? = some (handling.envelope, queue))
      (hlater : Works ({ gateway with queue }.dispatch handling.circumstances
        handling.envelope).progress.gateway later last) :
      Works gateway (.handled { gateway with queue } handling :: later) last

variable {config : Config} {gateway first last : Gateway} {progress : Progress}
variable {past later entries : List Entry} {handling : Handling}

/-! ### From a run to its journal -/

/-- Arrivals are written down before anything is handled. -/
theorem Works.arrivals (arrivals : List Envelope)
    (h : Works (arrivals.foldl put gateway) entries last) :
    Works gateway (arrivals.map .arrived ++ entries) last := by
  induction arrivals generalizing gateway with
  | nil => exact h
  | cons envelope arrivals ih => exact .arrive (ih h)

/-- What is written down while rounds are served is how the gateway got where it is. -/
theorem works_journal (rounds : List Round) (gateway : Gateway) :
    Works gateway (gateway.journal rounds) (gateway.serve rounds).progress.gateway := by
  induction rounds generalizing gateway with
  | nil => exact .rest gateway
  | cons round rounds ih =>
    unfold journal serve dispatchNext
    simp only
    refine .arrivals round.arrivals ?_
    generalize round.arrivals.foldl put gateway = waiting
    cases htake : waiting.queue.take? with
    | none => exact ih waiting
    | some taken =>
      obtain ⟨envelope, queue⟩ := taken
      refine .handle htake ?_
      simp only [Option.map_some]
      generalize { waiting with queue }.dispatch round.circumstances envelope = outcome
      rcases outcome with ⟨progress, error | flow⟩
      · exact .rest _
      · cases flow with
        | «continue» => exact ih progress.gateway
        | stop => exact .rest _

/-- Where a gateway goes on from one envelope to the next, none of them has failed. -/
theorem result_of_mem_journal {flow : Flow} (rounds : List Round) (gateway : Gateway)
    (hends : (gateway.serve rounds).result = .ok flow) {before : Gateway}
    (hin : .handled before handling ∈ gateway.journal rounds) :
    ∃ flow, (before.dispatch handling.circumstances handling.envelope).result = .ok flow := by
  induction rounds generalizing gateway with
  | nil => cases hin
  | cons round rounds ih =>
    unfold serve dispatchNext at hends
    unfold journal at hin
    simp only at hends hin
    rcases List.mem_append.mp hin with harrived | hhandled
    · obtain ⟨_, -, hother⟩ := List.mem_map.mp harrived
      cases hother
    · generalize round.arrivals.foldl put gateway = waiting at *
      cases htake : waiting.queue.take? with
      | none =>
        simp only [htake, Option.map_none] at hends hhandled
        exact ih waiting hends hhandled
      | some taken =>
        obtain ⟨envelope, queue⟩ := taken
        simp only [htake, Option.map_some] at hends hhandled
        generalize houtcome : dispatch round.circumstances envelope { waiting with queue } =
          outcome at *
        rcases List.mem_cons.mp hhandled with hthis | hlater
        · cases hthis
          rw [houtcome]
          split at hends
          next hresult => exact ⟨_, hresult⟩
          next => exact ⟨_, hends⟩
        · split at hlater
          next hresult =>
            simp only [hresult] at hends
            exact ih _ hends hlater
          next => cases hlater

/-- A run that does not fail has brought up the uplink and then has served. -/
theorem journalIn_of_ok {opening closing : Circumstances} {rounds : List Round} {flow : Flow}
    (hends : (gateway.run opening rounds closing).result = .ok flow) :
    let begun := (gateway.bootstrap opening).1.gateway
    gateway.journalIn opening rounds = begun.journal rounds ∧
      (begun.serve rounds).result = .ok flow ∧
      (gateway.run opening rounds closing).progress.gateway =
        (begun.serve rounds).progress.gateway := by
  rcases hbegun : (gateway.bootstrap opening).2 with error | value
  · have hfailed : (Outcome.ofUplink (gateway.bootstrap opening)).result = .error error := by
      unfold Outcome.ofUplink
      rw [hbegun]
      rfl
    rw [run_of_error hbegun, result_closeOnError, hfailed] at hends
    cases hends
  · rw [run_of_ok hbegun, result_closeOnError] at hends
    have hserved : ((gateway.bootstrap opening).1.gateway.serve rounds).result = .ok flow := hends
    rw [run_of_ok hbegun]
    refine ⟨?_, hserved, ?_⟩
    · unfold journalIn
      simp only [hbegun]
    · unfold Outcome.closeOnError Outcome.after
      simp only [hserved]

theorem exists_works_journalIn (opening : Circumstances) (rounds : List Round)
    (gateway : Gateway) :
    ∃ last, Works (gateway.bootstrap opening).1.gateway (gateway.journalIn opening rounds)
      last := by
  unfold journalIn
  simp only
  split
  · exact ⟨_, .rest _⟩
  · exact ⟨_, works_journal rounds _⟩

/-! ### What a journal says -/

/-- A journal can be cut at any entry. -/
theorem Works.split (h : Works first (past ++ later) last) :
    ∃ middle, Works first past middle ∧ Works middle later last := by
  induction past generalizing first with
  | nil => exact ⟨first, .rest first, h⟩
  | cons entry past ih =>
    cases h with
    | arrive hlater =>
      obtain ⟨middle, hpast, hrest⟩ := ih hlater
      exact ⟨middle, .arrive hpast, hrest⟩
    | handle htake hlater =>
      obtain ⟨middle, hpast, hrest⟩ := ih hlater
      exact ⟨middle, .handle htake hpast, hrest⟩

theorem Tidy.shutDownAll (h : progress.gateway.Tidy config) (circumstances : Circumstances) :
    (Gateway.shutDownAll circumstances progress).gateway.Tidy config := by
  have hstepped := h.stepUplink (progress.gateway.uplinkContext circumstances)
    fun context => Uplink.onSignal context .shutDown
  have hsignalled := hstepped.signalSessions circumstances .shutDown
    (progress.stepUplink (progress.gateway.uplinkContext circumstances)
      fun context => Uplink.onSignal context .shutDown).1.gateway.sessions
  exact ⟨hsignalled.config, hsignalled.nodup, hsignalled.foreign⟩

/-- Even the end of the gateway leaves it tidy. -/
theorem Tidy.handle (h : gateway.Tidy config) (handling : Handling) :
    (gateway.dispatch handling.circumstances handling.envelope).progress.gateway.Tidy config := by
  cases hends : handling.endsAll with
  | false => exact h.dispatch hends
  | true =>
    have hdown : handling.envelope = ⟨none, .signal .shutDown⟩ := eq_of_beq hends
    have hstart : (Progress.start gateway).gateway.Tidy config := h
    rw [hdown]
    exact hstart.shutDownAll handling.circumstances

theorem Tidy.withQueue (h : gateway.Tidy config) (queue : Queue) :
    Tidy config { gateway with queue } := ⟨h.config, h.nodup, h.foreign⟩

theorem Works.tidy (h : Works first entries last) (htidy : first.Tidy config) :
    last.Tidy config := by
  induction h with
  | rest => exact htidy
  | arrive _ ih => exact ih (htidy.withQueue _)
  | handle _ _ ih => exact ih ((htidy.withQueue _).handle _)

/-- A gateway was tidy whenever it handled an envelope. -/
theorem Works.tidy_of_mem (h : Works first entries last) (htidy : first.Tidy config)
    {before : Gateway} (hin : .handled before handling ∈ entries) : before.Tidy config := by
  obtain ⟨past, later, rfl⟩ := List.append_of_mem hin
  obtain ⟨middle, hpast, hrest⟩ := h.split
  cases hrest
  exact (hpast.tidy htidy).withQueue _

theorem valid_of_create (hcreate : create config = .ok gateway) : config.Valid := by
  unfold create at hcreate
  split at hcreate
  · cases hcreate
  next hvalid => exact Config.valid_of_validate hvalid

theorem tidy_bootstrap (hcreate : create config = .ok gateway) (opening : Circumstances) :
    (gateway.bootstrap opening).1.gateway.Tidy config := by
  have hstart : (Progress.start gateway).gateway.Tidy config := tidy_create hcreate
  exact hstart.stepUplink _ _

/-- No message is lost or handled twice: those that were on the queue and those that were put
there were taken in this order, or are still there. -/
theorem Works.messages (h : Works first entries last) {keeps : Envelope → Bool}
    (hkeeps : ∀ envelope, keeps envelope = true → envelope.isSignal = false) :
    first.queue.toList.filter keeps ++ (entries.flatMap (·.puts)).filter keeps =
      (entries.filterMap (·.taken?)).filter keeps ++ last.queue.toList.filter keeps := by
  induction h with
  | rest => exact List.append_nil _
  | @arrive gateway last envelope later _ ih =>
    have hput : (gateway.put envelope).queue.toList.filter keeps =
        (gateway.queue.toList ++ [envelope]).filter keeps :=
      Queue.filter_serve hkeeps gateway.queue (.put envelope)
    rw [hput, List.filter_append, List.append_assoc] at ih
    rw [List.flatMap_cons, List.filter_append, List.filterMap_cons_none rfl]
    exact ih
  | @handle gateway last handling queue later htake _ ih =>
    have hadvances := advances_dispatch { gateway with queue } handling
    have htaken : (.handled { gateway with queue } handling :: later).filterMap Entry.taken? =
        handling.envelope :: later.filterMap (·.taken?) := rfl
    rw [hadvances.queue, Queue.filter_foldl_put hkeeps, List.filter_append, List.append_assoc] at ih
    rw [Queue.toList_of_take? htake, List.flatMap_cons, htaken, ← List.singleton_append,
      ← List.singleton_append (l := List.filterMap _ _), List.filter_append, List.filter_append,
      List.filter_append, List.append_assoc, List.append_assoc, ← ih]
    rfl

end SensorGateway.Gateway
