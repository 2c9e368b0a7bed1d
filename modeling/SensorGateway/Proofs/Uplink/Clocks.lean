import Mathlib.Algebra.Order.Floor.Div
import SensorGateway.Proofs.Uplink.Turns

/-!
The two clocks that the beats of the uplink drive: one for the advertisements, one for the look
for silent devices. A clock counts the seconds of a period with every beat and begins anew once
it has reached its threshold, whether or not the period divides it. So it rings with every
`cycle`-th beat, where a cycle is as many periods as it takes to reach the threshold, and what
it shows is told by the number of beats alone, however many other turns there are in between.
-/

namespace SensorGateway.Uplink

/-! ### A count of seconds -/

section Count

variable {threshold period : Nat}

theorem ceilDiv_pos (hperiod : 0 < period) (hthreshold : 0 < threshold) :
    0 < threshold ⌈/⌉ period := by
  rw [← not_le, ceilDiv_le_iff_le_smul hperiod, smul_eq_mul, Nat.mul_zero]
  exact Nat.not_le_of_lt hthreshold

/-- The next beat of a cycle, after which a new one begins. -/
theorem succ_mod {cycle : Nat} (hcycle : 0 < cycle) (beats : Nat) :
    (beats + 1) % cycle = if cycle ≤ beats % cycle + 1 then 0 else beats % cycle + 1 := by
  have hmod := Nat.mod_lt beats hcycle
  rw [← Nat.mod_add_mod]
  split
  next hlast =>
    have hfull : beats % cycle + 1 = cycle := by omega
    rw [hfull, Nat.mod_self]
  next hearly => exact Nat.mod_eq_of_lt (Nat.lt_of_not_le hearly)

/-- What a clock shows is below its threshold. -/
theorem mod_mul_lt (hperiod : 0 < period) (hthreshold : 0 < threshold) (beats : Nat) :
    beats % (threshold ⌈/⌉ period) * period < threshold := by
  have hmod : ¬ threshold ⌈/⌉ period ≤ beats % (threshold ⌈/⌉ period) :=
    Nat.not_le_of_lt (Nat.mod_lt beats (ceilDiv_pos hperiod hthreshold))
  rw [ceilDiv_le_iff_le_smul hperiod, smul_eq_mul, Nat.mul_comm] at hmod
  exact Nat.lt_of_not_le hmod

/-- The sum that a clock compares with its threshold fits the word. -/
theorem addSeconds_mod_mul (hperiod : 0 < period) (hthreshold : 0 < threshold)
    (hfits : threshold + period < UInt64.size) (beats : Nat) :
    addSeconds (beats % (threshold ⌈/⌉ period) * period) period =
      (beats % (threshold ⌈/⌉ period) + 1) * period := by
  have hbelow := mod_mul_lt hperiod hthreshold beats
  unfold addSeconds
  rw [Nat.mod_eq_of_lt (by omega), Nat.succ_mul]

/-- The threshold is reached with the last beat of a cycle. -/
theorem isDue_iff (hperiod : 0 < period) (hthreshold : 0 < threshold)
    (hfits : threshold + period < UInt64.size) (beats : Nat) :
    IsDue threshold period (beats % (threshold ⌈/⌉ period) * period) ↔
      threshold ⌈/⌉ period ≤ beats % (threshold ⌈/⌉ period) + 1 := by
  unfold IsDue
  rw [addSeconds_mod_mul hperiod hthreshold hfits, ge_iff_le, ceilDiv_le_iff_le_smul hperiod,
    smul_eq_mul, Nat.mul_comm]

/-- A count that begins anew at its threshold is the number of beats since, times the
period. -/
theorem count_mod_mul (hperiod : 0 < period) (hthreshold : 0 < threshold)
    (hfits : threshold + period < UInt64.size) (beats : Nat) :
    count threshold period (beats % (threshold ⌈/⌉ period) * period) =
      (beats + 1) % (threshold ⌈/⌉ period) * period := by
  unfold count
  simp only [isDue_iff hperiod hthreshold hfits, addSeconds_mod_mul hperiod hthreshold hfits]
  rw [succ_mod (ceilDiv_pos hperiod hthreshold), ite_mul, Nat.zero_mul]

/-- One more cycle is complete whenever the threshold is reached. -/
theorem succ_div_of_isDue (hperiod : 0 < period) (hthreshold : 0 < threshold)
    (hfits : threshold + period < UInt64.size) (beats : Nat) :
    (beats + 1) / (threshold ⌈/⌉ period) = beats / (threshold ⌈/⌉ period) +
      if IsDue threshold period (beats % (threshold ⌈/⌉ period) * period) then 1 else 0 := by
  have hcomplete : threshold ⌈/⌉ period ∣ beats + 1 ↔
      threshold ⌈/⌉ period ≤ beats % (threshold ⌈/⌉ period) + 1 := by
    rw [Nat.dvd_iff_mod_eq_zero, succ_mod (ceilDiv_pos hperiod hthreshold),
      ite_eq_left_iff]
    exact ⟨fun h => Decidable.byContradiction fun hnot => Nat.succ_ne_zero _ (h hnot),
      fun h hnot => absurd h hnot⟩
  rw [Nat.succ_div]
  simp only [isDue_iff hperiod hthreshold hfits, hcomplete]

end Count

/-! ### Clocks -/

inductive Clock where
  | advertising
  | checking

namespace Clock

def threshold (config : Config) : Clock → Nat
  | advertising => config.advertisePeriod
  | checking => config.checkingPeriod

def elapsed (uplink : Uplink) : Clock → Nat
  | advertising => uplink.advertiseElapsed
  | checking => uplink.checkElapsed

/-- How many beats a clock takes from one ring to the next. -/
def cycle (config : Config) (clock : Clock) : Nat :=
  clock.threshold config ⌈/⌉ config.keepAlivePeriod

def shows (config : Config) (beats : Nat) (clock : Clock) : Nat :=
  beats % clock.cycle config * config.keepAlivePeriod

/-- The periods of a configuration are such that no clock overflows. -/
structure Fits (config : Config) (clock : Clock) : Prop where
  period : 0 < config.keepAlivePeriod
  threshold : 0 < clock.threshold config
  fits : clock.threshold config + config.keepAlivePeriod < UInt64.size

variable {config : Config} {clock : Clock}

/-- A clock that fits never overflows. -/
theorem Fits.shows_add_lt (h : clock.Fits config) (beats : Nat) :
    clock.shows config beats + config.keepAlivePeriod < UInt64.size := by
  have hbelow : clock.shows config beats < clock.threshold config :=
    mod_mul_lt h.period h.threshold beats
  have hfits := h.fits
  omega

/-- Only beats move a clock. -/
theorem elapsed_take (config : Config) (turn : Turn) (uplink : Uplink) (clock : Clock) :
    clock.elapsed (uplink.take config turn).1.uplink =
      if turn.beats config uplink then
        count (clock.threshold config) config.keepAlivePeriod (clock.elapsed uplink)
      else clock.elapsed uplink := by
  split
  next hbeats =>
    obtain ⟨frame, htaken⟩ := take_of_beats hbeats
    rw [htaken]
    cases clock <;> rfl
  next hnot =>
    have hsteady := take_steady (Bool.not_eq_true _ ▸ hnot)
    cases clock with
    | advertising => exact hsteady.advertiseElapsed
    | checking => exact hsteady.checkElapsed

end Clock

/-! ### Turn after turn -/

structure Stage where
  uplink : Uplink
  turn : Turn

namespace Stage

def beats (config : Config) (stage : Stage) : Bool :=
  stage.turn.beats config stage.uplink

def rings (config : Config) (clock : Clock) (stage : Stage) : Bool :=
  stage.beats config &&
    decide (IsDue (clock.threshold config) config.keepAlivePeriod (clock.elapsed stage.uplink))

end Stage

def Turn.accepts (turn : Turn) : Bool :=
  turn.input = .broker (.connack Broker.Message.accepted)

variable {config : Config} {turn : Turn} {uplink : Uplink}

/-- A turn that leaves the broker link open has found it open, and closes no device link. -/
theorem open_links_take (hopen : (uplink.take config turn).1.uplink.brokerOpen = true) :
    uplink.brokerOpen = true ∧ uplink.links <+: (uplink.take config turn).1.uplink.links := by
  cases hbeats : turn.beats config uplink with
  | true =>
    obtain ⟨frame, htaken⟩ := take_of_beats hbeats
    rw [htaken] at hopen ⊢
    exact ⟨Broker.Line.open_of_send hopen, List.prefix_rfl⟩
  | false =>
    have hsteady := take_steady hbeats
    exact ⟨hsteady.brokerOpen hopen, hsteady.links hopen⟩

theorem brokerOpen_of_beats (h : turn.beats config uplink = true) : uplink.brokerOpen = true := by
  simp only [Turn.beats, Bool.and_eq_true] at h
  cases hsend : ((turn.context config).line.send uplink.brokerOpen .pingRequest).1 with
  | ok frame => exact Broker.Line.open_of_taken hsend
  | error error =>
    rw [hsend] at h
    cases h.2

/-- The gateway is not connected before the broker takes the connection. -/
theorem connected_take (haccepts : turn.accepts = false) (hdown : uplink.connected = false) :
    (uplink.take config turn).1.uplink.connected = false := by
  have hstart : (Transition.start uplink).uplink.connected = false := hdown
  obtain ⟨network, input⟩ := turn
  cases input with
  | broker message =>
    cases message with
    | connack code =>
      have hrefused : code ≠ Broker.Message.accepted := by
        rintro rfl
        simp [Turn.accepts] at haccepts
      simp only [take, onBroker, Transition.connack, hstart, Bool.false_eq_true, if_false,
        if_pos hrefused]
      exact hdown
    | _ => exact hdown
  | sensor message =>
    cases message with
    | searchGateway radius =>
      simp only [take, onSensor, Transition.broadcast_eq]
      exact hdown
    | publish publication =>
      simp only [take, onSensor, Transition.relay, hstart, Bool.false_eq_true, if_false, ite_self]
    | _ => exact hdown
  | signal signal =>
    cases signal with
    | connectionLost => rfl
    | sendKeepAlive =>
      simp only [take, onSignal, Transition.keepAlive, hstart, Bool.false_eq_true, if_false]
    | shutDown => rfl
    | _ => exact hdown

theorem connected_of_accepts (haccepts : turn.accepts = true) :
    (uplink.take config turn).1.uplink.connected = true := by
  obtain ⟨network, input⟩ := turn
  obtain rfl : input = .broker (.connack Broker.Message.accepted) := of_decide_eq_true haccepts
  let context : Context := ⟨config, network⟩
  change ((Transition.start uplink).connack context Broker.Message.accepted).1.uplink.connected = _
  unfold Transition.connack
  split
  next hconnected => exact hconnected
  next =>
    rw [if_neg (fun hrefused => hrefused rfl)]
    have hopened : (((Transition.start uplink).update fun uplink =>
        { uplink with connected := true }).openLinks context).uplink.connected = true :=
      Transition.alike_openLinks.connected
    generalize ((Transition.start uplink).update fun uplink =>
      { uplink with connected := true }).openLinks context = opened at *
    have hpinged : (opened.forward context .pingRequest).1.uplink.connected = true :=
      (Transition.alike_forward .pingRequest).connected.trans hopened
    simp only
    split
    · exact hopened
    · split
      next hresult =>
        rw [hresult] at hpinged
        exact hpinged
      next => exact hpinged

/-- The turn in which the broker accepts is no beat. -/
theorem beats_of_accepts (haccepts : turn.accepts = true) : turn.beats config uplink = false := by
  have hinput : turn.input = .broker (.connack Broker.Message.accepted) :=
    of_decide_eq_true haccepts
  simp [Turn.beats, hinput]

/-- As the uplink is brought up, only its link to the broker is opened. -/
theorem uplink_connect (context : Context) (uplink : Uplink) :
    ∃ isOpen, (uplink.connect context).1.uplink = { uplink with brokerOpen := isOpen } := by
  unfold connect
  split
  next hopen =>
    rw [← (Prod.mk.inj hopen).2]
    exact ⟨_, rfl⟩
  next hopen =>
    split
    next hsend =>
      rw [← (Prod.mk.inj hsend).2, ← (Prod.mk.inj hopen).2]
      exact ⟨_, rfl⟩
    next hsend =>
      rw [← (Prod.mk.inj hsend).2, ← (Prod.mk.inj hopen).2]
      exact ⟨_, rfl⟩

/-- How an uplink comes from one state to another, turn after turn. -/
inductive Passes (config : Config) : Uplink → List Stage → Uplink → Prop where
  | rest (uplink : Uplink) : Passes config uplink [] uplink
  | turn {uplink last : Uplink} {turn : Turn} {later : List Stage}
      (hlater : Passes config (uplink.take config turn).1.uplink later last) :
      Passes config uplink (⟨uplink, turn⟩ :: later) last

namespace Passes

variable {clock : Clock} {first last : Uplink} {stages past later : List Stage} {beats : Nat}

/-- A history can be cut at any turn. -/
theorem split (h : Passes config first (past ++ later) last) :
    ∃ middle, Passes config first past middle ∧ Passes config middle later last := by
  induction past generalizing first with
  | nil => exact ⟨first, .rest first, h⟩
  | cons stage past ih =>
    cases h with
    | turn hlater =>
      obtain ⟨middle, hpast, hrest⟩ := ih hlater
      exact ⟨middle, .turn hpast, hrest⟩

/-- The number of beats tells what a clock shows and how often it has rung. -/
theorem counted (h : Passes config first stages last) (hfits : clock.Fits config)
    (hfirst : clock.elapsed first = clock.shows config beats) :
    clock.elapsed last = clock.shows config (beats + stages.countP (·.beats config)) ∧
      beats / clock.cycle config + stages.countP (·.rings config clock) =
        (beats + stages.countP (·.beats config)) / clock.cycle config := by
  induction h generalizing beats with
  | rest => exact ⟨hfirst, rfl⟩
  | @turn uplink last turn later _ ih =>
    have hnext := clock.elapsed_take config turn uplink
    rw [List.countP_cons, List.countP_cons]
    cases hbeats : turn.beats config uplink with
    | false =>
      have hbeat : Stage.beats config ⟨uplink, turn⟩ = false := hbeats
      have hrings : Stage.rings config clock ⟨uplink, turn⟩ = false := by
        rw [Stage.rings, hbeat, Bool.false_and]
      rw [hbeats, if_neg Bool.false_ne_true, hfirst] at hnext
      rw [hbeat, hrings, if_neg Bool.false_ne_true, Nat.add_zero, Nat.add_zero]
      exact ih hnext
    | true =>
      have hbeat : Stage.beats config ⟨uplink, turn⟩ = true := hbeats
      have hcounted : count (clock.threshold config) config.keepAlivePeriod
          (clock.elapsed uplink) = clock.shows config (beats + 1) := by
        rw [hfirst]
        exact count_mod_mul hfits.period hfits.threshold hfits.fits beats
      have hcycles : (beats + 1) / clock.cycle config = beats / clock.cycle config +
          if Stage.rings config clock ⟨uplink, turn⟩ then 1 else 0 := by
        simp only [Stage.rings, hbeat, Bool.true_and, decide_eq_true_eq, hfirst]
        exact succ_div_of_isDue hfits.period hfits.threshold hfits.fits beats
      rw [hbeats, if_pos rfl, hcounted] at hnext
      obtain ⟨hshows, hrings⟩ := ih hnext
      rw [if_pos hbeat, Nat.add_comm (List.countP _ later) 1, ← Nat.add_assoc, ← hrings, hcycles]
      refine ⟨hshows, ?_⟩
      rw [Nat.add_comm (List.countP _ later), Nat.add_assoc]

/-! ### Device links -/

/-- While the link to the broker is open no device link is closed. -/
theorem links (h : Passes config first stages last) (hopen : last.brokerOpen = true) :
    first.brokerOpen = true ∧ first.links <+: last.links := by
  induction h with
  | rest => exact ⟨hopen, List.prefix_rfl⟩
  | @turn uplink last turn later _ ih =>
    obtain ⟨hstill, hlinks⟩ := ih hopen
    obtain ⟨hbefore, hkept⟩ := open_links_take hstill
    exact ⟨hbefore, hkept.trans hlinks⟩

/-- And none is opened, unless the connection is lost. -/
theorem links_eq (h : Passes config first stages last)
    (hstays : ∀ stage ∈ stages, stage.turn.input ≠ .signal .connectionLost)
    (hconnected : first.connected = true) (hopen : last.brokerOpen = true) :
    last.links = first.links := by
  induction h with
  | rest => rfl
  | @turn uplink last turn later hlater ih =>
    obtain ⟨hthis, hothers⟩ := List.forall_mem_cons.mp hstays
    have hstill := (hlater.links hopen).1
    obtain ⟨hnext, hkept⟩ := take_links hthis hconnected hstill
    exact (ih hothers hnext hopen).trans hkept

/-- The device links on which a beat advertises the gateway. -/
theorem links_of_beats (h : Passes config first stages last) {stage : Stage} (hin : stage ∈ stages)
    (hbeats : stage.beats config = true) :
    first.links <+: stage.uplink.links ∧
      (first.connected = true →
        (∀ stage ∈ stages, stage.turn.input ≠ .signal .connectionLost) →
          stage.uplink.links = first.links) := by
  have hopen := brokerOpen_of_beats hbeats
  obtain ⟨past, later, rfl⟩ := List.append_of_mem hin
  obtain ⟨middle, hpast, hrest⟩ := h.split
  cases hrest
  refine ⟨(hpast.links hopen).2, fun hconnected hstays => ?_⟩
  exact hpast.links_eq (fun other hother => hstays other (List.mem_append_left _ hother))
    hconnected hopen

/-- Without a connection there is no beat. -/
theorem unconnected (h : Passes config first stages last) (hdown : first.connected = false)
    (hnone : ∀ stage ∈ stages, stage.turn.accepts = false) :
    last.connected = false ∧ stages.countP (·.beats config) = 0 := by
  induction h with
  | rest => exact ⟨hdown, rfl⟩
  | @turn uplink last turn later _ ih =>
    obtain ⟨hthis, hothers⟩ := List.forall_mem_cons.mp hnone
    obtain ⟨hlast, hbeats⟩ := ih (connected_take hthis hdown) hothers
    have hbeat : Stage.beats config ⟨uplink, turn⟩ = false := by
      simp [Stage.beats, Turn.beats, hdown]
    refine ⟨hlast, ?_⟩
    rw [List.countP_cons, hbeats, hbeat]
    rfl

end Passes

end SensorGateway.Uplink
