import SensorGateway.Proofs.Gateway.Stop
import SensorGateway.Proofs.Gateway.UplinkTurns

/-!
Working through the queue comes to an end. Only two kinds of envelopes have another one
put on the queue: a message that a session passes on to the gateway, and a signal to keep
the connection alive, with which it may be time to look for silent devices. What they put
there is of neither kind, so that an envelope weighs one if it puts nothing and two
otherwise, and every envelope that is handled makes the queue lighter, wherever in the
queue the new one goes. A loop that works through the queue is over before it has nothing
left to weigh. It returns then, unless the silence that a device is granted lasts longer
than the clock: over a message of such a device it panics.
-/

namespace SensorGateway

def Envelope.mayPut (config : Config) (envelope : Envelope) : Bool :=
  match envelope.payload, envelope.address with
  | .sensor message _, some address =>
      !address.same config.gatewayAddress && message.isForGateway
  | .signal .sendKeepAlive, some address => address.same config.gatewayAddress
  | .signal .sendKeepAlive, none => true
  | _, _ => false

/-- How many envelopes there are to handle at most until a queue is empty. -/
def Queue.weight (config : Config) (queue : Queue) : Nat :=
  queue.size + queue.toList.countP (·.mayPut config)

namespace Queue

variable {queue rest : Queue} {envelope : Envelope}

/-- An envelope that puts none makes a queue heavier by one. -/
theorem weight_put {config : Config} (h : envelope.mayPut config = false) :
    (queue.put envelope).weight config = queue.weight config + 1 := by
  have hperm : (queue.put envelope).toList.Perm (envelope :: queue.toList) :=
    perm_foldl_put [envelope] queue
  have hsize := hperm.length_eq
  rw [length_toList, List.length_cons, length_toList] at hsize
  rw [weight, weight, hperm.countP_eq, List.countP_cons_of_neg (by simp [h]), hsize]
  omega

/-- A queue is lighter by what is taken from it. -/
theorem weight_of_take? (config : Config) (h : queue.take? = some (envelope, rest)) :
    queue.weight config = rest.weight config + if envelope.mayPut config then 2 else 1 := by
  have hlist := toList_of_take? h
  have hsize := congrArg List.length hlist
  rw [length_toList, List.length_cons, length_toList] at hsize
  rw [weight, weight, hlist, List.countP_cons, hsize]
  split <;> omega

theorem weight_le (config : Config) (queue : Queue) : queue.weight config ≤ 2 * queue.size := by
  have hmost := List.countP_le_length (p := (·.mayPut config)) (l := queue.toList)
  rw [length_toList] at hmost
  unfold weight
  omega

theorem take?_of_isEmpty (h : queue.isEmpty = true) : queue.take? = none := by
  rw [isEmpty_eq, List.isEmpty_iff] at h
  cases htake : queue.take? with
  | none => rfl
  | some taken =>
    rw [toList_of_take? htake] at h
    cases h

theorem isEmpty_of_take? (h : queue.take? = none) : queue.isEmpty = true := by
  rw [isEmpty_eq, toList_of_take?_eq_none h]
  rfl

end Queue

namespace Gateway

variable {gateway : Gateway} {handling : Handling} {envelope : Envelope}

/-! ### What an envelope puts on the queue -/

/-- A message that is passed on puts one envelope on the queue, which puts none. -/
theorem mayPut_of_readdressed? {config : Config} {readdressed : Envelope}
    (h : envelope.readdressed? config = some readdressed) :
    envelope.mayPut config = true ∧ readdressed.mayPut config = false := by
  obtain ⟨address, message, link, rfl, hforeign, hgateway, rfl⟩ :=
    Envelope.readdressed?_eq_some.mp h
  constructor
  · simp [Envelope.mayPut, hforeign, hgateway]
  · simp [Envelope.mayPut, Address.same_self]

/-- The uplink only looks for silent devices with a signal to keep the connection alive. -/
theorem mayPut_of_beats {turn : Uplink.Turn}
    (hturn : handling.uplinkTurn? gateway.config = some turn)
    (hbeats : turn.beats gateway.config gateway.uplink = true) :
    handling.envelope.mayPut gateway.config = true := by
  have hinput : turn.input = .signal .sendKeepAlive := by
    simp only [Uplink.Turn.beats, Bool.and_eq_true, decide_eq_true_eq] at hbeats
    exact hbeats.1.1
  obtain ⟨circumstances, address, payload⟩ := handling
  cases address with
  | none =>
    cases payload with
    | sensor message link => cases hturn
    | broker message => cases hturn
    | signal signal =>
      cases hturn
      cases hinput
      rfl
  | some address =>
    cases payload with
    | sensor message link =>
      obtain ⟨-, hsome⟩ := Option.ite_none_right_eq_some.mp hturn
      cases hsome
      cases hinput
    | broker message =>
      obtain ⟨-, hsome⟩ := Option.ite_none_right_eq_some.mp hturn
      cases hsome
      cases hinput
    | signal signal =>
      obtain ⟨hown, hsome⟩ := Option.ite_none_right_eq_some.mp hturn
      cases hsome
      cases hinput
      exact hown

/-- What is put on the queue is one envelope at most, which puts none in its turn. -/
theorem puts_cases (gateway : Gateway) (handling : Handling) :
    gateway.puts handling = [] ∨ handling.envelope.mayPut gateway.config = true ∧
      ∃ envelope, gateway.puts handling = [envelope] ∧
        envelope.mayPut gateway.config = false := by
  cases hreaddressed : handling.envelope.readdressed? gateway.config with
  | some readdressed =>
    obtain ⟨hmay, hspent⟩ := mayPut_of_readdressed? hreaddressed
    exact .inr ⟨hmay, readdressed, puts_of_readdressed? hreaddressed, hspent⟩
  | none =>
    have hputs : gateway.puts handling =
        (gateway.told handling).1.effects.filterMap (·.envelope?) := by
      rw [puts, hreaddressed]
      rfl
    cases hturn : handling.uplinkTurn? gateway.config with
    | none =>
      rw [hputs, told_of_none hturn]
      exact .inl rfl
    | some turn =>
      rw [hputs, told_of_some hturn, Uplink.envelopes_take]
      split
      next hdue => exact .inr ⟨mayPut_of_beats hturn hdue.1, _, rfl, rfl⟩
      next => exact .inl rfl

/-- An envelope that puts nothing leaves the queue as it is. -/
theorem queue_dispatch_of_not_mayPut (handling : Handling)
    (h : handling.envelope.mayPut gateway.config = false) :
    (gateway.dispatch handling.circumstances handling.envelope).progress.gateway.queue =
      gateway.queue := by
  rw [(advances_dispatch gateway handling).queue]
  rcases gateway.puts_cases handling with hnone | ⟨hmay, -⟩
  · rw [hnone]
    rfl
  · rw [h] at hmay
    cases hmay

/-- Every envelope that is handled makes the queue lighter. -/
theorem weight_dispatch {queue : Queue} (htake : gateway.queue.take? = some (envelope, queue))
    (circumstances : Circumstances) :
    let after := ({ gateway with queue }.dispatch circumstances envelope).progress.gateway
    after.queue.weight after.config + 1 ≤ gateway.queue.weight gateway.config := by
  intro after
  have hadvances := advances_dispatch { gateway with queue } ⟨circumstances, envelope⟩
  have hconfig : after.config = gateway.config := hadvances.config
  have hqueue : after.queue =
      (puts { gateway with queue } ⟨circumstances, envelope⟩).foldl Queue.put queue :=
    hadvances.queue
  have hbefore := Queue.weight_of_take? gateway.config htake
  rw [hconfig, hqueue, hbefore]
  rcases puts_cases { gateway with queue } ⟨circumstances, envelope⟩ with
    hnone | ⟨hmay, put, hone, hspent⟩
  · rw [hnone, List.foldl_nil]
    split <;> omega
  · have hmay : envelope.mayPut gateway.config = true := hmay
    have hput : (queue.put put).weight gateway.config = queue.weight gateway.config + 1 :=
      Queue.weight_put hspent
    rw [hone, if_pos hmay]
    exact Nat.le_of_eq (congrArg (· + 1) hput)

/-! ### Runs on which nothing arrives -/

def Undisturbed (rounds : List Round) : Prop :=
  ∀ round ∈ rounds, round.arrivals = []

/-- The first rounds of those in which one envelope after the other is handled. -/
def quietly (circumstances : Nat → Circumstances) : Nat → List Round
  | 0 => []
  | n + 1 =>
      { circumstances := circumstances 0 } :: quietly (fun k => circumstances (k + 1)) n

theorem undisturbed_quietly (circumstances : Nat → Circumstances) (n : Nat) :
    Undisturbed (quietly circumstances n) := by
  induction n generalizing circumstances with
  | zero => exact nofun
  | succ n ih => exact List.forall_mem_cons.mpr ⟨rfl, ih _⟩

theorem serve_of_isEmpty {rounds : List Round} (h : Undisturbed rounds)
    (hempty : gateway.queue.isEmpty = true) :
    gateway.serve rounds = .proceed (.start gateway) := by
  induction rounds with
  | nil => rfl
  | cons round rounds ih =>
    obtain ⟨hround, hrounds⟩ := List.forall_mem_cons.mp h
    unfold serve dispatchNext
    simp only [hround, List.foldl_nil, Queue.take?_of_isEmpty hempty, Option.map_none]
    exact ih hrounds

/-- The first round handles the first envelope if nothing arrives. -/
theorem serve_of_take? {round : Round} (hround : round.arrivals = []) (rounds : List Round)
    {queue : Queue} (htake : gateway.queue.take? = some (envelope, queue)) :
    gateway.serve (round :: rounds) =
      let outcome := { gateway with queue }.dispatch round.circumstances envelope
      match outcome.result with
      | .ok .continue => (outcome.progress.gateway.serve rounds).after outcome.progress.events
      | _ => outcome := by
  rw [serve]
  unfold dispatchNext
  rw [hround, List.foldl_nil, htake]
  rfl

/-- Further rounds do nothing once the queue is empty or the gateway has stopped. -/
theorem serve_append {rounds more : List Round} (h : Undisturbed rounds) (hmore : Undisturbed more)
    (gateway : Gateway) (hover : (gateway.serve rounds).result = .ok .continue →
      (gateway.serve rounds).progress.gateway.queue.isEmpty = true) :
    gateway.serve (rounds ++ more) = gateway.serve rounds := by
  induction rounds generalizing gateway with
  | nil => exact serve_of_isEmpty hmore (hover rfl)
  | cons round rounds ih =>
    obtain ⟨hround, hrounds⟩ := List.forall_mem_cons.mp h
    rw [List.cons_append]
    cases htake : gateway.queue.take? with
    | none =>
      have hempty := Queue.isEmpty_of_take? htake
      have hall : Undisturbed (round :: (rounds ++ more)) := by
        rw [← List.cons_append]
        exact List.forall_mem_append.mpr ⟨h, hmore⟩
      rw [serve_of_isEmpty h hempty, serve_of_isEmpty hall hempty]
    | some taken =>
      obtain ⟨envelope, queue⟩ := taken
      rw [serve_of_take? hround rounds htake] at hover ⊢
      rw [serve_of_take? hround (rounds ++ more) htake]
      simp only at hover ⊢
      generalize { gateway with queue }.dispatch round.circumstances envelope = outcome at *
      split
      next hresult =>
        simp only [hresult] at hover
        rw [ih hrounds outcome.progress.gateway hover]
      next => rfl

/-! ### The loop that works through the queue -/

/-- The program panics over the next envelope after so many. -/
def PanicsAfter (circumstances : Nat → Circumstances) (n : Nat) (gateway : Gateway) : Prop :=
  let outcome := gateway.serve (quietly circumstances n)
  outcome.result = .ok .continue ∧ outcome.progress.gateway.panicsNext (circumstances n) = true

/-- Working through the queue is over once so many envelopes are handled. -/
structure DrainedBy (circumstances : Nat → Circumstances) (n : Nat) (gateway : Gateway) :
    Prop where
  /-- An envelope is handled in every round. -/
  handled : (gateway.handledBy (quietly circumstances n)).length = n
  calm : ∀ k < n, ¬ gateway.PanicsAfter circumstances k
  panicked : gateway.PanicsAfter circumstances n →
    gateway.drain circumstances =
      some (.panicked (gateway.serve (quietly circumstances n)).progress)
  returned : ¬ gateway.PanicsAfter circumstances n →
    gateway.drain circumstances = some (.returned (gateway.serve (quietly circumstances n))) ∧
    ((gateway.serve (quietly circumstances n)).result = .ok .continue →
      (gateway.serve (quietly circumstances n)).progress.gateway.queue.isEmpty = true)

variable {circumstances : Nat → Circumstances} {queue : Queue} {n : Nat}

theorem panicsAfter_zero :
    gateway.PanicsAfter circumstances 0 ↔ gateway.panicsNext (circumstances 0) = true :=
  ⟨And.right, fun h => ⟨rfl, h⟩⟩

/-- There is nothing on an empty queue over which the program could panic. -/
theorem not_panicsNext_of_take?_eq_none (h : gateway.queue.take? = none)
    (circumstances : Circumstances) : ¬ gateway.panicsNext circumstances = true := by
  rw [panicsNext, h]
  exact nofun

theorem drain_of_panics (h : gateway.panicsNext (circumstances 0) = true) :
    gateway.drain circumstances = some (.panicked (.start gateway)) := by
  rw [drain, if_pos h]

/-- On an empty queue the loop returns at once. -/
theorem drain_of_take?_eq_none (h : gateway.queue.take? = none) :
    gateway.drain circumstances = some (.returned (.proceed (.start gateway))) := by
  rw [drain, if_neg (not_panicsNext_of_take?_eq_none h _), dispatchNext, h]
  rfl

/-- If the program panics over the first envelope, none is handled. -/
theorem drainedBy_of_panics (h : gateway.panicsNext (circumstances 0) = true) :
    gateway.DrainedBy circumstances 0 where
  handled := rfl
  calm := nofun
  panicked _ := drain_of_panics h
  returned hcalm := (hcalm (panicsAfter_zero.mpr h)).elim

theorem drainedBy_of_take?_eq_none (h : gateway.queue.take? = none) :
    gateway.DrainedBy circumstances 0 where
  handled := rfl
  calm := nofun
  panicked hpanics := (not_panicsNext_of_take?_eq_none h _ (panicsAfter_zero.mp hpanics)).elim
  returned _ := ⟨drain_of_take?_eq_none h, fun _ => Queue.isEmpty_of_take? h⟩

section

variable {outcome : Outcome} (hcalm : ¬ gateway.panicsNext (circumstances 0) = true)
  (htake : gateway.queue.take? = some (envelope, queue))
  (houtcome : { gateway with queue }.dispatch (circumstances 0) envelope = outcome)

include htake houtcome

theorem serve_quietly_of_stops (hstops : outcome.result ≠ .ok .continue) :
    gateway.serve (quietly circumstances (n + 1)) = outcome := by
  rw [quietly, serve_of_take? rfl _ htake]
  simp only [houtcome]

theorem serve_quietly_of_goesOn (hgoes : outcome.result = .ok .continue) :
    gateway.serve (quietly circumstances (n + 1)) =
      (outcome.progress.gateway.serve (quietly (fun k => circumstances (k + 1)) n)).after
        outcome.progress.events := by
  rw [quietly, serve_of_take? rfl _ htake]
  simp only [houtcome, hgoes]

/-- A panic that comes after another envelope is one of the gateway that this one leaves. -/
theorem panicsAfter_succ (hgoes : outcome.result = .ok .continue) :
    gateway.PanicsAfter circumstances (n + 1) ↔
      outcome.progress.gateway.PanicsAfter (fun k => circumstances (k + 1)) n := by
  unfold PanicsAfter
  rw [serve_quietly_of_goesOn htake houtcome hgoes]
  rfl

include hcalm

/-- The loop returns when the gateway stops. -/
theorem drain_of_stops (hstops : outcome.result ≠ .ok .continue) :
    gateway.drain circumstances = some (.returned outcome) := by
  rw [drain, if_neg hcalm, dispatchNext, htake, Option.map_some]
  simp only [houtcome]

/-- The loop takes the next envelope when the gateway goes on. -/
theorem drain_of_goesOn (hgoes : outcome.result = .ok .continue) :
    gateway.drain circumstances =
      (outcome.progress.gateway.drain fun k => circumstances (k + 1)).map
        (·.after outcome.progress.events) := by
  rw [drain, if_neg hcalm, dispatchNext, htake, Option.map_some]
  simp only [houtcome, hgoes]
  exact Option.map_eq_bind.symm

/-- An envelope after which the gateway stops is the last one that is handled. -/
theorem drainedBy_of_stops (hstops : outcome.result ≠ .ok .continue) :
    gateway.DrainedBy circumstances 1 := by
  have hserve : gateway.serve (quietly circumstances 1) = outcome :=
    serve_quietly_of_stops htake houtcome hstops
  constructor
  case handled =>
    rw [quietly, handledBy, List.foldl_nil]
    simp only [htake, houtcome]
    rfl
  case calm =>
    intro k hk hpanics
    rw [Nat.lt_one_iff.mp hk] at hpanics
    exact hcalm (panicsAfter_zero.mp hpanics)
  case panicked =>
    intro hpanics
    rw [PanicsAfter, hserve] at hpanics
    exact (hstops hpanics.1).elim
  case returned =>
    intro _
    rw [hserve]
    exact ⟨drain_of_stops hcalm htake houtcome hstops, fun hgoes => (hstops hgoes).elim⟩

/-- An envelope after which the gateway goes on is one more to handle. -/
theorem DrainedBy.succ (hgoes : outcome.result = .ok .continue)
    (hrest : outcome.progress.gateway.DrainedBy (fun k => circumstances (k + 1)) n) :
    gateway.DrainedBy circumstances (n + 1) := by
  have hserve : gateway.serve (quietly circumstances (n + 1)) =
      (outcome.progress.gateway.serve (quietly (fun k => circumstances (k + 1)) n)).after
        outcome.progress.events :=
    serve_quietly_of_goesOn htake houtcome hgoes
  have hpanics (k : Nat) : gateway.PanicsAfter circumstances (k + 1) ↔
      outcome.progress.gateway.PanicsAfter (fun k => circumstances (k + 1)) k :=
    panicsAfter_succ htake houtcome hgoes
  have hdrain := drain_of_goesOn hcalm htake houtcome hgoes
  constructor
  case handled =>
    rw [quietly, handledBy, List.foldl_nil]
    simp only [htake, houtcome, hgoes]
    rw [List.length_cons, hrest.handled]
  case calm =>
    intro k hk
    cases k with
    | zero => exact mt panicsAfter_zero.mp hcalm
    | succ k => exact mt (hpanics k).mp (hrest.calm k (Nat.lt_of_succ_lt_succ hk))
  case panicked =>
    intro hlast
    rw [hdrain, hrest.panicked ((hpanics n).mp hlast), hserve]
    rfl
  case returned =>
    intro hlast
    obtain ⟨hreturned, hempty⟩ := hrest.returned (mt (hpanics n).mpr hlast)
    rw [hdrain, hreturned, hserve]
    exact ⟨rfl, hempty⟩

end

/-- The loop is over before it has handled more envelopes than the queue is heavy. -/
theorem exists_drainedBy (gateway : Gateway) (circumstances : Nat → Circumstances) :
    ∃ n ≤ gateway.queue.weight gateway.config, gateway.DrainedBy circumstances n := by
  induction hweight : gateway.queue.weight gateway.config using Nat.strongRecOn
    generalizing gateway circumstances with
  | _ weight ih =>
    by_cases hpanics : gateway.panicsNext (circumstances 0) = true
    · exact ⟨0, Nat.zero_le _, drainedBy_of_panics hpanics⟩
    cases htake : gateway.queue.take? with
    | none => exact ⟨0, Nat.zero_le _, drainedBy_of_take?_eq_none htake⟩
    | some taken =>
      obtain ⟨envelope, queue⟩ := taken
      have hlighter := gateway.weight_dispatch htake (circumstances 0)
      generalize houtcome : { gateway with queue }.dispatch (circumstances 0) envelope = outcome
        at hlighter
      rw [hweight] at hlighter
      by_cases hgoes : outcome.result = .ok .continue
      · obtain ⟨n, hn, hrest⟩ := ih _ hlighter outcome.progress.gateway
          (fun k => circumstances (k + 1)) rfl
        refine ⟨n + 1, ?_, hrest.succ hpanics htake houtcome hgoes⟩
        exact Nat.le_trans (Nat.succ_le_succ hn) hlighter
      · refine ⟨1, ?_, drainedBy_of_stops hpanics htake houtcome hgoes⟩
        exact Nat.le_trans (Nat.le_add_left 1 _) hlighter

/-! ### Deadlines in time -/

/-- A gateway keeps its configuration. -/
theorem config_serve (rounds : List Round) (gateway : Gateway) :
    (gateway.serve rounds).progress.gateway.config = gateway.config := by
  induction rounds generalizing gateway with
  | nil => rfl
  | cons round rounds ih =>
    unfold serve dispatchNext
    simp only [foldl_put_eq]
    cases round.arrivals.foldl Queue.put gateway.queue |>.take? with
    | none => exact ih _
    | some taken =>
      obtain ⟨envelope, queue⟩ := taken
      have hconfig := (advances_dispatch { gateway with queue }
        ⟨round.circumstances, envelope⟩).config
      simp only [Option.map_some]
      generalize { gateway with queue }.dispatch round.circumstances envelope = outcome
        at hconfig ⊢
      split
      · exact (ih outcome.progress.gateway).trans hconfig
      · exact hconfig

/-- As long as the clock can show the deadline, the program does not panic. -/
theorem not_panicsNext_of_inTime {circumstances : Circumstances}
    (h : circumstances.now + gateway.config.handlerTimeout * 1000000000 < Session.clockEnd) :
    ¬ gateway.panicsNext circumstances = true := by
  have hdeadline (address : Address) :
      (gateway.sessionContext circumstances address).hasDeadline = true := decide_eq_true h
  unfold panicsNext
  rcases gateway.queue.take? with _ | ⟨⟨address, payload⟩, queue⟩
  · exact nofun
  · cases payload <;> cases address <;> simp [panicsOver, hdeadline]

/-- Working through the queue ends: of the `n` envelopes that there are, and those that come
from them, no more than `2 * n` are handled. Then the loop returns, with what every longer
run comes to on which nothing arrives, or the program panics over the next envelope, which
it does not as long as the clock can show the deadline of a device that is heard. For every
envelope puts one more on the queue at most, which puts none whenever it is handled; and a
message for the gateway itself puts none. -/
theorem draining_ends (gateway : Gateway) (circumstances : Nat → Circumstances) :
    (∃ n ≤ 2 * gateway.queue.size, gateway.DrainedBy circumstances n ∧
      (¬ gateway.PanicsAfter circumstances n → ∀ more, Undisturbed more →
        gateway.drain circumstances =
          some (.returned (gateway.serve (quietly circumstances n ++ more))))) ∧
    ((∀ k, (circumstances k).now + gateway.config.handlerTimeout * 1000000000 <
        Session.clockEnd) →
      ∃ outcome, gateway.drain circumstances = some (.returned outcome)) ∧
    (∀ circumstances envelope, ∃ puts : List Envelope, puts.length ≤ 1 ∧
      (gateway.dispatch circumstances envelope).progress.gateway.queue =
        puts.foldl Queue.put gateway.queue ∧
      ∀ put ∈ puts, ∀ later : Gateway, later.config = gateway.config → ∀ circumstances,
        (later.dispatch circumstances put).progress.gateway.queue = later.queue) ∧
    ∀ circumstances address message link, gateway.isOwn address = true →
      (gateway.dispatch circumstances
        ⟨some address, .sensor message link⟩).progress.gateway.queue = gateway.queue := by
  obtain ⟨n, hn, hdrained⟩ := gateway.exists_drainedBy circumstances
  refine ⟨⟨n, ?_, hdrained, fun hcalm more hmore => ?_⟩, fun htime => ?_,
    fun circumstances envelope => ?_, fun circumstances address message link hown => ?_⟩
  · exact Nat.le_trans hn (gateway.queue.weight_le gateway.config)
  · obtain ⟨hreturned, hempty⟩ := hdrained.returned hcalm
    rw [serve_append (undisturbed_quietly circumstances n) hmore gateway hempty]
    exact hreturned
  · have hcalm : ¬ gateway.PanicsAfter circumstances n := by
      rintro ⟨-, hpanics⟩
      refine not_panicsNext_of_inTime ?_ hpanics
      rw [config_serve]
      exact htime n
    exact ⟨_, (hdrained.returned hcalm).1⟩
  · have hqueue := (advances_dispatch gateway ⟨circumstances, envelope⟩).queue
    rcases gateway.puts_cases ⟨circumstances, envelope⟩ with hnone | ⟨-, put, hone, hspent⟩
    · rw [hnone] at hqueue
      exact ⟨[], Nat.zero_le _, hqueue, fun _ hin => (List.not_mem_nil hin).elim⟩
    · rw [hone] at hqueue
      refine ⟨[put], Nat.le_refl _, hqueue, fun other hin later hconfig circumstances => ?_⟩
      rw [List.mem_singleton.mp hin]
      rw [← hconfig] at hspent
      exact queue_dispatch_of_not_mayPut ⟨circumstances, put⟩ hspent
  · have hspent : Envelope.mayPut gateway.config ⟨some address, .sensor message link⟩ = false := by
      have hsame : address.same gateway.config.gatewayAddress = true := hown
      simp [Envelope.mayPut, hsame]
    exact queue_dispatch_of_not_mayPut ⟨circumstances, some address, .sensor message link⟩ hspent

/-- The loop does not always return: a device is heard, and the silence that it is granted
lasts longer than the clock. -/
theorem not_all_drains_return :
    ¬ ∀ (config : Config) (gateway : Gateway) (arrivals : List Envelope)
        (circumstances : Nat → Circumstances), create config = .ok gateway →
      ∃ outcome, (arrivals.foldl put gateway).drain circumstances = some (.returned outcome) := by
  intro hall
  let config : Config := { handlerTimeout := 9223372036854775807 }
  let gateway : Gateway :=
    { config, uplink := {}, sessions := [], timers := .none, queue := .empty }
  let ping : Envelope := ⟨some meter, .sensor (.pingRequest none) "udp:20000"⟩
  let always : Nat → Circumstances := fun _ => { now := 1000000000, network := {} }
  obtain ⟨outcome, hreturned⟩ := hall config gateway [ping] always rfl
  have hpanics : ([ping].foldl put gateway).panicsNext (always 0) = true := by decide
  rw [drain_of_panics hpanics] at hreturned
  cases hreturned

end Gateway

end SensorGateway
