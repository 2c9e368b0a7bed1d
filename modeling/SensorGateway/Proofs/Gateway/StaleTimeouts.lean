import SensorGateway.Proofs.Gateway.World

/-!
No timeout is left over from an earlier handshake. A task that is ended may have
put its envelope on the queue just before, where it stays. But signals overtake
messages, and no signal starts a handshake: whenever a message is handled, which
may start one, every timeout on the queue comes from a task that runs. So a
timeout for an answer that is awaited always comes from the task that was started
together with the waiting.
-/

namespace SensorGateway.World

open Gateway Session

def FromRunning (gateway : Gateway) (parcel : Parcel) : Prop :=
  ∃ task ∈ gateway.timers.tasks, parcel = task.parcel

/-- What the notes of a world say about its handshakes. -/
structure Honest (world : World) : Prop where
  gateway : world.gateway.Coherent
  /-- A task was started in the turn in which its handshake was. -/
  armed : ∀ address handshake signal, Handshake.timeout? handshake = some signal →
    world.gateway.awaitsAt address handshake = true →
    ∀ task ∈ world.gateway.timers.tasks, task.timer.isFor address signal = true →
      world.armed task.number = world.begun address handshake
  /-- A timeout for an answer that is awaited comes from a task that runs. -/
  awaited : ∀ parcel, parcel ∈ world.waiting ∨ world.inHand = some parcel →
    ∀ address handshake signal, Handshake.timeout? handshake = some signal →
      parcel.envelope = ⟨some address, .signal signal⟩ →
      world.gateway.awaitsAt address handshake = true → FromRunning world.gateway parcel
  /-- While a message is handled every timeout comes from a task that runs. -/
  message : ∀ parcel, world.inHand = some parcel → parcel.envelope.isSignal = false →
    ∀ late ∈ world.waiting, late.envelope.isTimeout = true → FromRunning world.gateway late

variable {world world' : World} {parcel : Parcel}
variable {address : Address} {handshake : Handshake} {signal : Signal}

theorem isTimeout_of_timeout? (h : Handshake.timeout? handshake = some signal) :
    signal.isTimeout = true := by
  cases handshake with
  | willTopic => cases h; rfl
  | willMessage => cases h; rfl
  | regack => cases h; rfl
  | connack => cases h
  | suback => cases h
  | unsuback => cases h
  | puback => cases h

theorem isSignal_of_isTimeout {envelope : Envelope} (h : envelope.isTimeout = true) :
    envelope.isSignal = true := by
  obtain ⟨address, payload⟩ := envelope
  cases payload with
  | signal signal => rfl
  | sensor message link => cases h
  | broker message => cases h

/-- Only the sessions of devices wait for an answer. -/
theorem isOwn_of_awaitsAt {gateway : Gateway} (h : gateway.Coherent)
    (hawaits : gateway.awaitsAt address handshake = true) : gateway.isOwn address = false := by
  unfold awaitsAt at hawaits
  cases hfound : gateway.session? address with
  | none =>
    rw [hfound] at hawaits
    cases hawaits
  | some session =>
    have hforeign := h.isOwn_session (mem_of_session? hfound)
    rw [isOwn, Address.same_congr_left (same_of_session? hfound)] at hforeign
    exact hforeign

/-- A device whose task runs owes the answer that the task is for. -/
theorem awaitsAt_of_mem {gateway : Gateway} (h : gateway.Coherent)
    (hforeign : gateway.isOwn address = false)
    (hsignal : Handshake.timeout? handshake = some signal) {task : Task}
    (hruns : task ∈ gateway.timers.tasks) (hfor : task.timer.isFor address signal = true) :
    gateway.awaitsAt address handshake = true := by
  have hcount := h.count_timeout hforeign hsignal
  cases hawaits : gateway.awaitsAt address handshake with
  | true => rfl
  | false =>
    rw [hawaits] at hcount
    have hnone := List.countP_eq_zero.mp hcount task hruns
    exact absurd hfor hnone

theorem isFor_self {task : Task}
    (henvelope : task.parcel.envelope = ⟨some address, .signal signal⟩) :
    task.timer.isFor address signal = true := by
  have haddress : task.timer.address = address := by
    have hsome := congrArg Envelope.address henvelope
    exact Option.some.inj hsome
  have hpayload : task.timer.signal = signal := by
    have hpayload := congrArg Envelope.payload henvelope
    exact Payload.signal.inj hpayload
  simp [Timer.isFor, haddress, hpayload]

/-! ### Steps beside the gateway -/

theorem honest_put (hparcel : parcel.envelope.isTimeout = true → FromRunning world.gateway parcel)
    (h : world.Honest) : (world.put parcel).Honest := by
  refine ⟨h.gateway.withQueue _, h.armed, ?_, ?_⟩
  · intro late hlate address handshake signal hsignal henvelope hawaits
    rcases hlate with hwaits | hhand
    · rcases mem_queueUp.mp hwaits with rfl | hold
      · refine hparcel ?_
        rw [henvelope]
        exact isTimeout_of_timeout? hsignal
      · exact h.awaited late (.inl hold) address handshake signal hsignal henvelope hawaits
    · exact h.awaited late (.inr hhand) address handshake signal hsignal henvelope hawaits
  · intro first hhand hmessage late hlate htimeout
    rcases mem_queueUp.mp hlate with rfl | hold
    · exact hparcel htimeout
    · exact h.message first hhand hmessage late hold htimeout

/-- When a message is taken, no signal is left on the queue. -/
theorem honest_take {queue : Queue} {rest : List Parcel} (hsynced : world.Synced)
    (hfirst : world.waiting = parcel :: rest) (h : world.Honest) :
    Honest { world with
      gateway := { world.gateway with queue }
      waiting := rest
      inHand := some parcel } := by
  refine ⟨h.gateway.withQueue queue, h.armed, ?_, ?_⟩
  · intro late hlate address handshake signal hsignal henvelope hawaits
    have hold : late ∈ world.waiting := by
      rw [hfirst]
      rcases hlate with hwaits | hhand
      · exact List.mem_cons_of_mem _ hwaits
      · rw [Option.some.inj hhand]
        exact List.mem_cons_self
    exact h.awaited late (.inl hold) address handshake signal hsignal henvelope hawaits
  · intro first hhand hmessage late hlate htimeout
    have hsorted := hsynced.signalsFirst
    rw [hfirst] at hsorted
    have hsignal := (List.pairwise_cons.mp hsorted).1 late hlate (isSignal_of_isTimeout htimeout)
    rw [Option.some.inj hhand, hmessage] at hsignal
    cases hsignal

/-! ### Handling an envelope -/

section Handling

variable {before after : Gateway}

/-- A task whose handshake goes on goes on as well. -/
theorem mem_tasks_of_follows (hfollows : Follows before after) (hcoherent : before.Coherent)
    (hsignal : Handshake.timeout? handshake = some signal)
    (hbefore : before.awaitsAt address handshake = true)
    (hafter : after.awaitsAt address handshake = true) {task : Task}
    (hfor : task.timer.isFor address signal = true) :
    task ∈ after.timers.tasks ↔ task ∈ before.timers.tasks := by
  have hkept := hfollows.kept address signal (isOwn_of_awaitsAt hcoherent hbefore)
    ((awaitsAt_iff _ _ hsignal).mp hbefore) ((awaitsAt_iff _ _ hsignal).mp hafter)
  have hsame : task.timer.address.same address = true := (Bool.and_eq_true_iff.mp hfor).1
  constructor
  · intro hmem
    have hin : task ∈ after.timers.tasksAt address := Timers.mem_tasksAt.mpr ⟨hmem, hsame⟩
    rw [hkept] at hin
    exact (Timers.mem_tasksAt.mp hin).1
  · intro hmem
    have hin : task ∈ before.timers.tasksAt address := Timers.mem_tasksAt.mpr ⟨hmem, hsame⟩
    rw [← hkept] at hin
    exact (Timers.mem_tasksAt.mp hin).1

/-- An answer that is awaited after a signal was awaited before. -/
theorem awaitsAt_of_quiet (hquiet : Quiet before after)
    (hsignal : Handshake.timeout? handshake = some signal)
    (hafter : after.awaitsAt address handshake = true) :
    before.awaitsAt address handshake = true := by
  rw [awaitsAt_iff _ _ hsignal] at hafter ⊢
  rcases hquiet.timer? address with hnone | hsame
  · rw [hnone] at hafter
    cases hafter
  · rw [← hsame, hafter]

/-- A task that ran before for an answer that is awaited after ran because the
answer was awaited before. -/
theorem awaitsAt_before_of_mem (hfollows : Follows before after) (hbefore : before.Coherent)
    (hafter : after.Coherent) (hsignal : Handshake.timeout? handshake = some signal)
    (hawaits : after.awaitsAt address handshake = true) {task : Task}
    (hruns : task ∈ before.timers.tasks) (hfor : task.timer.isFor address signal = true) :
    before.awaitsAt address handshake = true := by
  have hforeign : before.isOwn address = false := by
    rw [← hfollows.isOwn]
    exact isOwn_of_awaitsAt hafter hawaits
  exact awaitsAt_of_mem hbefore hforeign hsignal hruns hfor

variable {circumstances : Circumstances} {puts : List Parcel}

/-- Where a timeout on the queue comes from after an envelope was handled. -/
theorem fromRunning_next (hordinary : parcel.envelope.isOrdinary = true)
    (hok : (world.gateway.dispatch circumstances parcel.envelope).result = .ok .continue)
    (hhand : world.inHand = some parcel) (h : world.Honest)
    (hsignal : Handshake.timeout? handshake = some signal)
    (hafter : (world.next circumstances parcel).awaitsAt address handshake = true)
    {late : Parcel} (henvelope : late.envelope = ⟨some address, .signal signal⟩)
    (hlate : late ∈ world.waiting ∨ FromRunning world.gateway late) :
    FromRunning (world.next circumstances parcel) late := by
  have hfollows : Follows world.gateway (world.next circumstances parcel) :=
    dispatch_follows hordinary hok h.gateway
  have htimeout : late.envelope.isTimeout = true := by
    rw [henvelope]
    exact isTimeout_of_timeout? hsignal
  -- While a message is in hand the timeout is from a task that runs; a signal
  -- has started nothing, so that the answer was awaited already.
  have hrunning : FromRunning world.gateway late := by
    rcases hlate with hwaits | hrunning
    · cases hmessage : parcel.envelope.isSignal with
      | false => exact h.message parcel hhand hmessage late hwaits htimeout
      | true =>
        have hquiet := QuietSteps.quiet (h.gateway.quietSteps hmessage hordinary hok)
        exact h.awaited late (.inl hwaits) address handshake signal hsignal henvelope
          (awaitsAt_of_quiet hquiet hsignal hafter)
    · exact hrunning
  obtain ⟨task, hruns, rfl⟩ := hrunning
  have hfor := isFor_self henvelope
  have hbefore := awaitsAt_before_of_mem hfollows h.gateway
    (coherent_dispatch hordinary hok h.gateway) hsignal hafter hruns hfor
  exact ⟨task, (mem_tasks_of_follows hfollows h.gateway hsignal hbefore hafter hfor).mpr hruns,
    rfl⟩

/-- Where a timeout comes from that was put on the queue meanwhile: not from the
readers, nor from the gateway itself. -/
theorem fromRunning_put (hordinary : parcel.envelope.isOrdinary = true)
    (hok : (world.gateway.dispatch circumstances parcel.envelope).result = .ok .continue)
    (hhand : world.inHand = some parcel) (hduring : world.During circumstances parcel puts)
    (h : world.Honest) (hsignal : Handshake.timeout? handshake = some signal)
    (hafter : (world.next circumstances parcel).awaitsAt address handshake = true)
    {late : Parcel} (henvelope : late.envelope = ⟨some address, .signal signal⟩)
    (hput : late ∈ puts) : FromRunning (world.next circumstances parcel) late := by
  have htimeout : late.envelope.isTimeout = true := by
    rw [henvelope]
    exact isTimeout_of_timeout? hsignal
  cases horigin : late.origin with
  | task number =>
    obtain ⟨task, hruns, rfl⟩ := hduring.fired late hput number horigin
    rcases hruns with hbefore | hruns
    · exact fromRunning_next hordinary hok hhand h hsignal hafter henvelope
        (.inr ⟨task, hbefore, rfl⟩)
    · exact ⟨task, hruns, rfl⟩
  | reader =>
    have hread := hduring.read late hput horigin
    rw [htimeout] at hread
    cases hread
  | gateway =>
    have hown : late.envelope ∈ (puts.filter (·.origin = .gateway)).map (·.envelope) :=
      List.mem_map_of_mem (List.mem_filter.mpr ⟨hput, by simp [horigin]⟩)
    have hnone := (dispatch_follows hordinary hok h.gateway).queue.isTimeout_of_mem hduring.own hown
    rw [htimeout] at hnone
    cases hnone

/-- A task was started in the turn in which its handshake was, be it in this turn
or earlier. -/
theorem armed_handled (hordinary : parcel.envelope.isOrdinary = true)
    (hok : (world.gateway.dispatch circumstances parcel.envelope).result = .ok .continue)
    (h : world.Honest) (hsignal : Handshake.timeout? handshake = some signal)
    (hafter : (world.next circumstances parcel).awaitsAt address handshake = true) {task : Task}
    (hruns : task ∈ (world.next circumstances parcel).timers.tasks)
    (hfor : task.timer.isFor address signal = true) :
    (world.handled circumstances parcel puts).armed task.number =
      (world.handled circumstances parcel puts).begun address handshake := by
  have hfollows : Follows world.gateway (world.next circumstances parcel) :=
    dispatch_follows hordinary hok h.gateway
  simp only [handled]
  cases hbefore : world.gateway.awaitsAt address handshake with
  | true =>
    have hold := (mem_tasks_of_follows hfollows h.gateway hsignal hbefore hafter hfor).mp hruns
    rw [if_pos (h.gateway.numbered.below task hold), if_neg (by simp)]
    exact h.armed address handshake signal hsignal hbefore task hold hfor
  | false =>
    have hnew : world.gateway.timers.started ≤ task.number := by
      rcases hfollows.timers.mem task hruns with hold | hnew
      · rw [awaitsAt_before_of_mem hfollows h.gateway
          (coherent_dispatch hordinary hok h.gateway) hsignal hafter hold hfor] at hbefore
        cases hbefore
      · exact hnew
    rw [if_neg (Nat.not_lt.mpr hnew), if_pos ⟨rfl, hafter⟩]

theorem honest_handled (hordinary : parcel.envelope.isOrdinary = true)
    (hok : (world.gateway.dispatch circumstances parcel.envelope).result = .ok .continue)
    (hhand : world.inHand = some parcel) (hduring : world.During circumstances parcel puts)
    (h : world.Honest) : (world.handled circumstances parcel puts).Honest := by
  have hcoherent : (world.next circumstances parcel).Coherent :=
    coherent_dispatch hordinary hok h.gateway
  refine ⟨hcoherent.withQueue _, ?_, ?_, ?_⟩
  · intro address handshake signal hsignal hafter task hruns hfor
    exact armed_handled hordinary hok h hsignal hafter hruns hfor
  · intro late hlate address handshake signal hsignal henvelope hafter
    rcases hlate with hwaits | hnothing
    · rcases mem_foldl_queueUp.mp hwaits with hput | hold
      · exact fromRunning_put hordinary hok hhand hduring h hsignal hafter henvelope hput
      · exact fromRunning_next hordinary hok hhand h hsignal hafter henvelope (.inl hold)
    · cases hnothing
  · intro first hnothing
    cases hnothing

end Handling

/-! ### Every world -/

theorem honest_step (hstep : Step world world') (hsynced : world.Synced) (h : world.Honest) :
    world'.Honest := by
  cases hstep with
  | fire hruns => exact honest_put (fun _ => ⟨_, hruns, rfl⟩) h
  | arrive htimeout =>
    refine honest_put (fun hother => ?_) h
    rw [htimeout] at hother
    cases hother
  | take hidle htake hfirst => exact honest_take hsynced hfirst h
  | handle circumstances puts hhand hordinary hok hduring =>
    exact honest_handled hordinary hok hhand hduring h

theorem reachable_honest {config : Config} (hreach : Reachable config world) : world.Honest := by
  induction hreach with
  | begin circumstances hcreate hok =>
    have hcoherent := coherent_uplinkStep (uplinkStep_bootstrap circumstances)
      (coherent_create hcreate)
    refine ⟨hcoherent, fun _ _ _ _ _ _ _ _ => rfl, ?_, ?_⟩
    · intro late hlate
      rcases hlate with hwaits | hnothing
      · cases hwaits
      · cases hnothing
    · intro first hnothing
      cases hnothing
  | step hreach hstep ih => exact honest_step hstep (reachable_synced hreach) ih

/-- A device has one task for an answer that it owes. -/
theorem eq_of_isFor {gateway : Gateway} (h : gateway.Coherent)
    (hforeign : gateway.isOwn address = false) {task other : Task}
    (hruns : task ∈ gateway.timers.tasks) (hfor : task.timer.isFor address signal = true)
    (hruns' : other ∈ gateway.timers.tasks) (hfor' : other.timer.isFor address signal = true) :
    other = task := by
  have hin : task ∈ gateway.timers.tasksAt address :=
    Timers.mem_tasksAt.mpr ⟨hruns, (Bool.and_eq_true_iff.mp hfor).1⟩
  have hin' : other ∈ gateway.timers.tasksAt address :=
    Timers.mem_tasksAt.mpr ⟨hruns', (Bool.and_eq_true_iff.mp hfor').1⟩
  have hsignals := h.devices address hforeign
  unfold Timers.signalsAt at hsignals
  cases htimer : (gateway.phaseAt address).timer? with
  | none =>
    rw [htimer, Option.toList_none, List.map_eq_nil_iff] at hsignals
    rw [hsignals] at hin
    cases hin
  | some signal =>
    rw [htimer, Option.toList_some, List.map_eq_singleton_iff] at hsignals
    obtain ⟨only, honly, -⟩ := hsignals
    rw [honly, List.mem_singleton] at hin hin'
    rw [hin, hin']

/-- However the tasks, the readers and the gateway get in each other's way: a
timeout that is about to be handled while its answer is awaited was put on the
queue by the one task that runs for it, which was started in the very turn in
which the device began to owe the answer. -/
theorem timeout_of_own_task {config : Config} (hreach : Reachable config world)
    (hsignal : Handshake.timeout? handshake = some signal) (hhand : world.inHand = some parcel)
    (henvelope : parcel.envelope = ⟨some address, .signal signal⟩)
    (hawaits : world.gateway.awaitsAt address handshake = true) :
    ∃ task ∈ world.gateway.timers.tasks, task.timer.isFor address signal = true ∧
      parcel.origin = .task task.number ∧
      world.armed task.number = world.begun address handshake ∧
      ∀ other ∈ world.gateway.timers.tasks,
        other.number = task.number ∨ other.timer.isFor address signal = true → other = task := by
  have hhonest := reachable_honest hreach
  obtain ⟨task, hruns, rfl⟩ := hhonest.awaited parcel (.inr hhand) address handshake signal hsignal
    henvelope hawaits
  have hfor := isFor_self henvelope
  refine ⟨task, hruns, hfor, rfl,
    hhonest.armed address handshake signal hsignal hawaits task hruns hfor, ?_⟩
  intro other hother hsame
  rcases hsame with hnumber | hfor'
  · exact hhonest.gateway.numbered.eq_of_number hother hruns hnumber
  · exact eq_of_isFor hhonest.gateway (isOwn_of_awaitsAt hhonest.gateway hawaits) hruns hfor
      hother hfor'

/-- The device that asks for a will is asked for the topic of it, and its task
goes off once. -/
theorem timeout_of_own_task_askWithWill :
    ∃ world : World, Reachable {} world ∧
      ∃ parcel, world.inHand = some parcel ∧
        parcel.envelope = ⟨some (.plain ⟨.v4 10 0 0 7, 1234, 0⟩), .signal .willTopicTimeout⟩ ∧
        world.gateway.awaitsAt (.plain ⟨.v4 10 0 0 7, 1234, 0⟩) .willTopic = true ∧
        ∃ task ∈ world.gateway.timers.tasks, parcel.origin = .task task.number ∧
          world.armed task.number = world.begun (.plain ⟨.v4 10 0 0 7, 1234, 0⟩) .willTopic := by
  let device : Address := .plain ⟨.v4 10 0 0 7, 1234, 0⟩
  let task : Task := ⟨0, answerTimer {} device .willTopicTimeout⟩
  have hbegun : Reachable {} _ := .begin ⟨0, {}⟩ rfl rfl
  have hmessage : (askWithWill device).isTimeout = false := rfl
  have harrived := hbegun.step (.arrive hmessage)
  have htaken := harrived.step (.take rfl rfl rfl)
  have hhandled := htaken.step (.handle ⟨0, {}⟩ [] rfl rfl rfl ⟨rfl, by simp, by simp⟩)
  have hfired := hhandled.step (@Step.fire _ task (List.mem_singleton.mpr rfl))
  have hinHand := hfired.step (.take rfl rfl rfl)
  have hsignal : Handshake.timeout? .willTopic = some .willTopicTimeout := rfl
  obtain ⟨task, hruns, -, horigin, harmed, -⟩ :=
    timeout_of_own_task hinHand hsignal rfl rfl rfl
  exact ⟨_, hinHand, _, rfl, rfl, rfl, task, hruns, horigin, harmed⟩

end SensorGateway.World
