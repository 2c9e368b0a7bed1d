import SensorGateway.Proofs.Gateway.Journal
import SensorGateway.Proofs.Uplink.Clocks

/-!
How often the gateway pings its broker, advertises itself and has silent devices looked for.
All three follow the signals to keep its connection alive: of the entries of a journal only
those are turns of the uplink that are for the gateway, and of these only the beats move its
clocks. So whatever devices and the broker send in between, the number of beats tells how often
each has happened.
-/

namespace SensorGateway

namespace Uplink.Stage

variable {config : Config} {stage : Stage}

def events (config : Config) (stage : Stage) : List Event :=
  (stage.uplink.take config stage.turn).1.events

theorem isSteady_of_mem (hbeats : stage.beats config = false) {event : Event}
    (hin : event ∈ stage.events config) :
    Effect.isSteady config stage.turn.mayPing (.event event) = true := by
  obtain ⟨effect, heffect, hevent⟩ := List.mem_filterMap.mp hin
  have hsteady := (take_steady hbeats).effects effect heffect
  cases effect with
  | event happened =>
    cases hevent
    exact hsteady
  | _ => cases hevent

/-- What happens in a beat: a ping that is taken, and then the advertisements. -/
theorem events_of_beats (hbeats : stage.beats config = true) :
    ∃ ping, ping.isPing config = true ∧ ping.advertised? = none ∧
      stage.events config =
        ping :: stage.uplink.advertisements (stage.turn.context config) := by
  obtain ⟨frame, htaken⟩ := take_of_beats hbeats
  let ping : Event := .broker config.gatewayAddress (.sending stage.uplink.brokerOpen .pingRequest
    (.ok frame) ((stage.turn.context config).line.send stage.uplink.brokerOpen .pingRequest).2)
  refine ⟨ping, Address.same_self config.gatewayAddress, rfl, ?_⟩
  have hevents (events : List Event) : (events.map Effect.event).filterMap (·.event?) = events := by
    rw [List.filterMap_map]
    exact List.filterMap_some
  have hlooks : (stage.uplink.looks config).filterMap (·.event?) = [] := by
    unfold looks
    split <;> rfl
  have hall : ([Effect.event ping] ++ ((stage.uplink.advertisements
      (stage.turn.context config)).map Effect.event ++ stage.uplink.looks config)).filterMap
        (·.event?) = ping :: stage.uplink.advertisements (stage.turn.context config) := by
    rw [List.filterMap_append, List.filterMap_append, hevents, hlooks, List.append_nil]
    rfl
  unfold events Transition.events
  rw [htaken]
  exact hall

/-- Apart from the ping with which a connection begins, a ping is taken in a beat only. -/
theorem countP_isPing (config : Config) (stage : Stage) (hping : stage.turn.mayPing = false) :
    (stage.events config).countP (·.isPing config) = if stage.beats config then 1 else 0 := by
  cases hbeats : stage.beats config with
  | true =>
    obtain ⟨ping, htaken, -, hevents⟩ := events_of_beats hbeats
    have hothers : (stage.uplink.advertisements (stage.turn.context config)).countP
        (·.isPing config) = 0 := by
      rw [List.countP_eq_zero]
      intro event hin
      simp [isPing_of_mem_advertisements hin]
    rw [hevents, List.countP_cons_of_pos htaken, hothers]
    rfl
  | false =>
    rw [if_neg Bool.false_ne_true, List.countP_eq_zero]
    intro event hin
    have hsteady := isSteady_of_mem hbeats hin
    simp only [Effect.isSteady, hping, Bool.false_or, Bool.and_eq_true,
      Bool.not_eq_true'] at hsteady
    simp [hsteady.2]

/-- The device links on which the gateway is advertised in a turn. -/
theorem filterMap_advertised? (config : Config) (stage : Stage) :
    (stage.events config).filterMap (·.advertised?) =
      if stage.rings config .advertising then stage.uplink.links else [] := by
  cases hbeats : stage.beats config with
  | true =>
    obtain ⟨ping, -, hnone, hevents⟩ := events_of_beats hbeats
    rw [hevents, List.filterMap_cons_none hnone, filterMap_advertised?_advertisements]
    simp only [rings, hbeats, Bool.true_and, decide_eq_true_eq]
    rfl
  | false =>
    have hrings : stage.rings config .advertising = false := by
      rw [rings, hbeats, Bool.false_and]
    rw [hrings, if_neg Bool.false_ne_true, List.filterMap_eq_nil_iff]
    intro event hin
    have hsteady := isSteady_of_mem hbeats hin
    simp only [Effect.isSteady, Bool.and_eq_true, Option.isNone_iff_eq_none] at hsteady
    exact hsteady.1

end Uplink.Stage

namespace Gateway

/-- The signal that has every session look at how long its device has been silent. -/
def look : Envelope := ⟨none, .signal .checkInactivity⟩

namespace Entry

def turn? (config : Config) : Entry → Option Uplink.Turn
  | arrived _ => none
  | handled _ handling => handling.uplinkTurn? config

/-- The turn that the uplink took, and the uplink before it. -/
def stage? (config : Config) : Entry → Option Uplink.Stage
  | arrived _ => none
  | handled before handling => (handling.uplinkTurn? config).map (⟨before.uplink, ·⟩)

def accepts (config : Config) (entry : Entry) : Bool :=
  (entry.turn? config).any (·.accepts)

/-- Whether the broker has answered the connection of the gateway, which may begin with a
ping. -/
def isConnack (config : Config) (entry : Entry) : Bool :=
  (entry.turn? config).any (·.mayPing)

def isLoss (config : Config) (entry : Entry) : Bool :=
  (entry.turn? config).any (·.input = .signal .connectionLost)

/-- Whether a signal to keep the connection alive was handled and a ping of the gateway was
taken. -/
def isBeat (config : Config) : Entry → Bool
  | arrived _ => false
  | handled before handling =>
      handling.envelope.payload = .signal .sendKeepAlive &&
        (handled before handling).events.any (·.isPing config)

/-- How many looks for silent devices were put on the queue while an envelope was handled. -/
def looks : Entry → Nat
  | arrived _ => 0
  | handled before handling =>
      (before.dispatch handling.circumstances
          handling.envelope).progress.gateway.queue.toList.count look -
        before.queue.toList.count look

theorem isBeat_handled (config : Config) (before : Gateway) (handling : Handling) :
    (handled before handling).isBeat config =
      (decide (handling.envelope.payload = .signal .sendKeepAlive) &&
        (handled before handling).events.any (·.isPing config)) := rfl

theorem stage?_handled (config : Config) (before : Gateway) (handling : Handling) :
    (handled before handling).stage? config =
      (handling.uplinkTurn? config).map (⟨before.uplink, ·⟩) := rfl

/-- Every stage of the uplink is a turn that it was told. -/
theorem any_turn? {config : Config} {entry : Entry} {stage : Uplink.Stage}
    (h : entry.stage? config = some stage) (p : Uplink.Turn → Bool) :
    (entry.turn? config).any p = p stage.turn := by
  cases entry with
  | arrived envelope => cases h
  | handled before handling =>
    obtain ⟨turn, hturn, rfl⟩ := Option.map_eq_some_iff.mp h
    exact congrArg (Option.any p) hturn

end Entry

variable {config : Config} {gateway first last before : Gateway} {handling : Handling}
variable {past later entries : List Entry}

/-! ### One entry -/

/-- A ping of the gateway is its own affair. -/
theorem isOwn_of_isPing {event : Event} (h : event.isPing config = true) :
    event.isOwn config = true := by
  cases event with
  | broker owner use =>
    cases use with
    | sending wasOpen message result stillOpen =>
      cases message <;> cases result <;> first | exact h | cases h
    | _ => cases h
  | _ => cases h

theorem isOwn_of_advertised? {event : Event} {link : LinkName}
    (h : event.advertised? = some link) : event.isOwn config = true := by
  cases event with
  | broadcast link radius message result => rfl
  | _ => cases h

/-- The uplink takes a signal only of an envelope that holds it. -/
theorem payload_of_uplinkTurn? {turn : Uplink.Turn} (h : handling.uplinkTurn? config = some turn)
    (signal : Signal) :
    handling.envelope.payload = .signal signal ↔ turn.input = .signal signal := by
  obtain ⟨circumstances, address, payload⟩ := handling
  cases address with
  | none =>
    cases payload with
    | signal told =>
      cases h
      simp
    | _ => cases h
  | some address =>
    cases payload with
    | signal told =>
      obtain ⟨-, hsome⟩ := Option.ite_none_right_eq_some.mp h
      cases hsome
      simp
    | _ =>
      obtain ⟨-, hsome⟩ := Option.ite_none_right_eq_some.mp h
      cases hsome
      simp

/-- What an entry tells of the gateway itself, read off from the turn of its uplink. -/
structure Entry.Tells (config : Config) (entry : Entry) : Prop where
  beat : entry.isBeat config = (entry.stage? config).any (·.beats config)
  pings : entry.isConnack config = false →
    entry.events.countP (·.isPing config) = if entry.isBeat config then 1 else 0
  /-- The ping with which a connection begins is no beat. -/
  connack : entry.isConnack config = true → entry.isBeat config = false
  advertised : entry.events.filterMap (·.advertised?) =
    ((entry.stage? config).toList.filter (·.rings config .advertising)).flatMap (·.uplink.links)
  looks : entry.looks = (entry.stage? config).toList.countP (·.rings config .checking)

theorem tells_arrived (config : Config) (envelope : Envelope) :
    (Entry.arrived envelope).Tells config := ⟨rfl, fun _ => rfl, fun _ => rfl, rfl, rfl⟩

/-- Nothing happens to the gateway itself but what its uplink does in a turn. -/
theorem Tidy.own_events (h : before.Tidy config) (handling : Handling) :
    (Entry.handled before handling).events.filter (·.isOwn config) =
      (before.told handling).1.events := by
  obtain rfl := h.config
  exact (advances_dispatch before handling).events fun _ => h.isOwn_session

/-- The pings of the gateway are those of its uplink, whoever else pings meanwhile. -/
theorem Tidy.countP_isPing (h : before.Tidy config) (handling : Handling) :
    (Entry.handled before handling).events.countP (·.isPing config) =
      (before.told handling).1.events.countP (·.isPing config) := by
  rw [← h.own_events handling, List.countP_filter]
  refine List.countP_congr fun event _ => ?_
  rw [Bool.and_eq_true]
  exact ⟨fun hping => ⟨hping, isOwn_of_isPing hping⟩, And.left⟩

/-- Nobody but the uplink advertises the gateway. -/
theorem Tidy.advertised (h : before.Tidy config) (handling : Handling) :
    (Entry.handled before handling).events.filterMap (·.advertised?) =
      (before.told handling).1.events.filterMap (·.advertised?) := by
  rw [← h.own_events handling, List.filterMap_filter]
  refine List.filterMap_congr fun event _ => ?_
  cases hlink : event.advertised? with
  | none => rw [ite_self]
  | some link => rw [if_pos (isOwn_of_advertised? hlink)]

/-- Looks for silent devices come from the uplink only. -/
theorem looks_handled (before : Gateway) (handling : Handling) :
    (Entry.handled before handling).looks =
      ((before.told handling).1.effects.filterMap (·.envelope?)).count look := by
  have hqueue := (advances_dispatch before handling).queue
  have hperm := Queue.perm_foldl_put (before.puts handling) before.queue
  have hnone : (handling.envelope.readdressed? before.config).toList.count look = 0 := by
    rw [List.count_eq_zero]
    intro hin
    obtain ⟨address, message, link, -, -, -, hlook⟩ :=
      Envelope.readdressed?_eq_some.mp (Option.mem_toList.mp hin)
    cases hlook
  unfold Entry.looks
  simp only
  rw [hqueue, hperm.count_eq, List.count_append, Nat.add_sub_cancel, puts, List.count_append,
    hnone, Nat.zero_add]

/-- An envelope that is not for the uplink leaves pings, advertisements and looks alone. -/
theorem Tidy.tells_of_none (h : before.Tidy config) (hturn : handling.uplinkTurn? config = none) :
    (Entry.handled before handling).Tells config := by
  have hpings := h.countP_isPing handling
  have hadvertised := h.advertised handling
  have hlooks := looks_handled before handling
  obtain rfl := h.config
  rw [told_of_none hturn] at hpings hadvertised hlooks
  have hnone : ∀ event ∈ (Entry.handled before handling).events,
      event.isPing before.config = false := by
    have hzero := List.countP_eq_zero.mp hpings
    exact fun event hin => Bool.eq_false_iff.mpr (hzero event hin)
  have hbeat : (Entry.handled before handling).isBeat before.config = false := by
    rw [Entry.isBeat_handled, List.any_eq_false.mpr fun event hin => Bool.eq_false_iff.mp
      (hnone event hin), Bool.and_false]
  have hstage : (Entry.handled before handling).stage? before.config = none := by
    rw [Entry.stage?_handled, hturn]
    rfl
  refine ⟨?_, fun _ => ?_, fun _ => hbeat, ?_, ?_⟩
  · rw [hbeat, hstage]
    rfl
  · rw [hpings, hbeat]
    rfl
  · rw [hadvertised, hstage]
    rfl
  · rw [hlooks, hstage]
    rfl

/-- A beat is a signal with which a ping is taken. -/
theorem Tidy.isBeat_of_some (h : before.Tidy config) {turn : Uplink.Turn}
    (hturn : handling.uplinkTurn? config = some turn) :
    (Entry.handled before handling).isBeat config = turn.beats config before.uplink := by
  have hpings := h.countP_isPing handling
  obtain rfl := h.config
  rw [told_of_some hturn] at hpings
  rw [Entry.isBeat_handled]
  by_cases hkeep : handling.envelope.payload = .signal .sendKeepAlive
  · have hinput := (payload_of_uplinkTurn? hturn .sendKeepAlive).mp hkeep
    have hquiet : turn.mayPing = false := by simp [Uplink.Turn.mayPing, hinput]
    let stage : Uplink.Stage := ⟨before.uplink, turn⟩
    have hcount : (Entry.handled before handling).events.countP (·.isPing before.config) =
        if stage.beats before.config then 1 else 0 :=
      hpings.trans (stage.countP_isPing before.config hquiet)
    rw [decide_eq_true hkeep, Bool.true_and, Bool.eq_iff_iff, List.any_eq_true,
      ← List.countP_pos_iff, hcount]
    change _ ↔ stage.beats before.config = true
    cases stage.beats before.config <;> simp
  · have hinput := mt (payload_of_uplinkTurn? hturn .sendKeepAlive).mpr hkeep
    simp [Uplink.Turn.beats, hkeep, hinput]

theorem Tidy.tells_of_some (h : before.Tidy config) {turn : Uplink.Turn}
    (hturn : handling.uplinkTurn? config = some turn) :
    (Entry.handled before handling).Tells config := by
  let stage : Uplink.Stage := ⟨before.uplink, turn⟩
  have hbeat : (Entry.handled before handling).isBeat config = stage.beats config :=
    h.isBeat_of_some hturn
  have hpings := h.countP_isPing handling
  have hadvertised := h.advertised handling
  have hlooks := looks_handled before handling
  obtain rfl := h.config
  rw [told_of_some hturn] at hpings hadvertised hlooks
  have hstage : (Entry.handled before handling).stage? before.config = some stage := by
    rw [Entry.stage?_handled, hturn]
    rfl
  have hconnack : (Entry.handled before handling).isConnack before.config = turn.mayPing :=
    Entry.any_turn? hstage (·.mayPing)
  refine ⟨?_, fun hother => ?_, fun hgreets => ?_, ?_, ?_⟩
  · rw [hbeat, hstage]
    rfl
  · have hquiet : stage.turn.mayPing = false := hconnack.symm.trans hother
    rw [hpings, hbeat]
    exact stage.countP_isPing before.config hquiet
  · have hgreeting : turn.mayPing = true := hconnack.symm.trans hgreets
    rw [hbeat]
    exact Uplink.Turn.beats_of_mayPing hgreeting
  · rw [hadvertised, hstage]
    refine (stage.filterMap_advertised? before.config).trans ?_
    rw [Option.toList_some, List.filter_singleton]
    cases stage.rings before.config .advertising with
    | true => exact (List.flatMap_singleton _ _).symm
    | false => rfl
  · have hputs := Uplink.envelopes_take before.config turn before.uplink
    rw [hlooks, hstage, hputs, Option.toList_some, List.countP_singleton]
    simp only [Uplink.Stage.rings, Uplink.Stage.beats, Bool.and_eq_true, decide_eq_true_eq]
    exact apply_ite (List.count look) _ _ _

theorem Tidy.tells (h : before.Tidy config) (handling : Handling) :
    (Entry.handled before handling).Tells config := by
  cases hturn : handling.uplinkTurn? config with
  | none => exact h.tells_of_none hturn
  | some turn => exact h.tells_of_some hturn

/-! ### Whole journals -/

theorem stages_cons (config : Config) (entry : Entry) (entries : List Entry) :
    (entry :: entries).filterMap (·.stage? config) =
      (entry.stage? config).toList ++ entries.filterMap (·.stage? config) := by
  cases h : entry.stage? config <;> simp [h]

/-- What the turns of the uplink have in common with the journal. -/
theorem stages_tell (h : ∀ entry ∈ entries, entry.Tells config) :
    let stages := entries.filterMap (·.stage? config)
    entries.countP (·.isBeat config) = stages.countP (·.beats config) ∧
      ((entries.filter (!·.isConnack config)).flatMap (·.events)).countP (·.isPing config) =
        entries.countP (·.isBeat config) ∧
      (entries.flatMap (·.events)).filterMap (·.advertised?) =
        (stages.filter (·.rings config .advertising)).flatMap (·.uplink.links) ∧
      (entries.map (·.looks)).sum = stages.countP (·.rings config .checking) := by
  induction entries with
  | nil => exact ⟨rfl, rfl, rfl, rfl⟩
  | cons entry entries ih =>
    obtain ⟨hentry, hentries⟩ := List.forall_mem_cons.mp h
    obtain ⟨hbeats, hpings, hadvertised, hlooks⟩ := ih hentries
    have hbeat : (if entry.isBeat config then 1 else 0) =
        (entry.stage? config).toList.countP (·.beats config) := by
      rw [hentry.beat]
      cases hstage : entry.stage? config with
      | none => rfl
      | some stage => exact (List.countP_singleton ..).symm
    intro stages
    have hstages : stages = (entry.stage? config).toList ++ entries.filterMap (·.stage? config) :=
      stages_cons config entry entries
    rw [hstages]
    refine ⟨?_, ?_, ?_, ?_⟩
    · rw [List.countP_cons, List.countP_append, hbeats, hbeat, Nat.add_comm]
    · rw [List.countP_cons, ← hpings]
      cases hconnack : entry.isConnack config with
      | true =>
        rw [List.filter_cons_of_neg (by simp [hconnack]), hentry.connack hconnack]
        rfl
      | false =>
        rw [List.filter_cons_of_pos (by simp [hconnack]), List.flatMap_cons, List.countP_append,
          hentry.pings hconnack, Nat.add_comm]
    · rw [List.flatMap_cons, List.filterMap_append, List.filter_append, List.flatMap_append,
        hadvertised, hentry.advertised]
    · rw [List.map_cons, List.sum_cons, List.countP_append, hlooks, hentry.looks]

/-- So every entry of a journal tells what the uplink did, no more and no less. -/
theorem Works.tells (h : Works first entries last) (htidy : first.Tidy config) :
    ∀ entry ∈ entries, entry.Tells config := by
  intro entry hin
  cases entry with
  | arrived envelope => exact tells_arrived config envelope
  | handled before handling => exact (h.tidy_of_mem htidy hin).tells handling

/-- The uplink stays as it is if it is told nothing. -/
theorem Tidy.uplink_of_none (h : before.Tidy config)
    (hturn : handling.uplinkTurn? config = none) :
    (before.dispatch handling.circumstances handling.envelope).progress.gateway.uplink =
      before.uplink := by
  obtain rfl := h.config
  rw [(advances_dispatch before handling).uplink, told_of_none hturn]
  rfl

theorem Tidy.uplink_of_some (h : before.Tidy config) {turn : Uplink.Turn}
    (hturn : handling.uplinkTurn? config = some turn) :
    (before.dispatch handling.circumstances handling.envelope).progress.gateway.uplink =
      (before.uplink.take config turn).1.uplink := by
  obtain rfl := h.config
  rw [(advances_dispatch before handling).uplink, told_of_some hturn]

/-- Turn after turn the uplink does nothing but what the journal says. -/
theorem Works.passes (h : Works first entries last) (htidy : first.Tidy config) :
    Uplink.Passes config first.uplink (entries.filterMap (·.stage? config)) last.uplink := by
  induction h with
  | rest gateway => exact .rest gateway.uplink
  | arrive _ ih => exact ih (htidy.withQueue _)
  | @handle gateway last handling queue later _ _ ih =>
    have hbefore : Tidy config { gateway with queue } := htidy.withQueue queue
    have hlater := ih (hbefore.handle handling)
    rw [stages_cons, Entry.stage?_handled]
    cases hturn : handling.uplinkTurn? config with
    | none =>
      rw [hbefore.uplink_of_none hturn] at hlater
      exact hlater
    | some turn =>
      rw [hbefore.uplink_of_some hturn] at hlater
      exact .turn hlater

/-- What holds of no entry holds of no turn of the uplink. -/
theorem turns_of_entries {p : Uplink.Turn → Bool}
    (h : ∀ entry ∈ entries, (entry.turn? config).any p = false) :
    ∀ stage ∈ entries.filterMap (·.stage? config), p stage.turn = false := by
  intro stage hin
  obtain ⟨entry, hentry, hstage⟩ := List.mem_filterMap.mp hin
  exact (Entry.any_turn? hstage p).symm.trans (h entry hentry)

/-- A clock that begins a cycle rings once in as many beats as the cycle has, and never
overflows. -/
theorem Works.counted {clock : Uplink.Clock} (h : Works first entries last)
    (htidy : first.Tidy config) (hfits : clock.Fits config)
    (hzero : clock.elapsed first.uplink = clock.shows config 0) :
    clock.elapsed last.uplink = clock.shows config (entries.countP (·.isBeat config)) ∧
      (entries.filterMap (·.stage? config)).countP (·.rings config clock) =
        entries.countP (·.isBeat config) / clock.cycle config := by
  obtain ⟨hshows, hrings⟩ := (h.passes htidy).counted hfits hzero
  rw [(stages_tell (h.tells htidy)).1]
  rw [Nat.zero_add] at hshows hrings
  rw [Nat.zero_div, Nat.zero_add] at hrings
  exact ⟨hshows, hrings⟩

/-- Every time the clock of the advertisements rings, the gateway is advertised on each of its
device links. These are the links with which it began, unless it loses its connection. -/
theorem Works.sweeps (h : Works first entries last) (htidy : first.Tidy config)
    (hconnected : first.uplink.connected = true) :
    ∃ sweeps : List (List LinkName),
      (entries.flatMap (·.events)).filterMap (·.advertised?) = sweeps.flatten ∧
      sweeps.length =
        (entries.filterMap (·.stage? config)).countP (·.rings config .advertising) ∧
      ∀ sweep ∈ sweeps, first.uplink.links <+: sweep ∧
        ((∀ entry ∈ entries, entry.isLoss config = false) → sweep = first.uplink.links) := by
  obtain ⟨-, -, hadvertised, -⟩ := stages_tell (h.tells htidy)
  refine ⟨((entries.filterMap (·.stage? config)).filter
    (·.rings config .advertising)).map (·.uplink.links), ?_, ?_, ?_⟩
  · exact hadvertised.trans List.flatMap_def
  · rw [List.length_map, ← List.countP_eq_length_filter]
  · intro sweep hin
    obtain ⟨stage, hstage, rfl⟩ := List.mem_map.mp hin
    obtain ⟨hmem, hrings⟩ := List.mem_filter.mp hstage
    have hbeat : stage.beats config = true := (Bool.and_eq_true_iff.mp hrings).1
    obtain ⟨hkept, hequal⟩ := (h.passes htidy).links_of_beats hmem hbeat
    refine ⟨hkept, fun hstays => hequal hconnected fun other hother => ?_⟩
    exact of_decide_eq_false (turns_of_entries hstays other hother)

/-- As the broker takes the connection, no clock has moved yet. -/
theorem Works.of_accepts (h : Works first (past ++ .handled before handling :: later) last)
    (htidy : first.Tidy config) (hdown : first.uplink.connected = false)
    (haccepts : (Entry.handled before handling).accepts config = true)
    (hfirst : ∀ entry ∈ past, entry.accepts config = false) :
    let after := (before.dispatch handling.circumstances handling.envelope).progress.gateway
    Works after later last ∧ after.Tidy config ∧ after.uplink.connected = true ∧
      ∀ clock : Uplink.Clock, clock.Fits config →
        clock.elapsed first.uplink = clock.shows config 0 →
        clock.elapsed after.uplink = clock.shows config 0 := by
  obtain ⟨middle, hpast, hrest⟩ := h.split
  obtain ⟨turn, hturn, haccepting⟩ := (Option.any_eq_true _ _).mp haccepts
  cases hrest with
  | @handle _ _ _ queue _ _ hlater =>
    have hbefore := (hpast.tidy htidy).withQueue queue
    have huplink := hbefore.uplink_of_some hturn
    refine ⟨hlater, hbefore.handle handling, ?_, fun clock hfits hzero => ?_⟩
    · rw [huplink]
      exact Uplink.connected_of_accepts haccepting
    · have hnobeat : past.countP (·.isBeat config) = 0 :=
        (stages_tell (hpast.tells htidy)).1.trans
          ((hpast.passes htidy).unconnected hdown (turns_of_entries hfirst)).2
      have hshows := (hpast.counted htidy hfits hzero).1
      rw [hnobeat] at hshows
      rw [huplink, Uplink.Clock.elapsed_take, Uplink.beats_of_accepts haccepting,
        if_neg Bool.false_ne_true]
      exact hshows

/-! ### From the beginning -/

/-- Bringing the uplink up starts no clock. -/
theorem uplink_bootstrap (hcreate : create config = .ok gateway) (opening : Circumstances) :
    ∃ isOpen, (gateway.bootstrap opening).1.gateway.uplink = { brokerOpen := isOpen } := by
  obtain ⟨isOpen, hconnect⟩ :=
    Uplink.uplink_connect (gateway.uplinkContext opening) gateway.uplink
  have huplink : gateway.uplink = {} := by
    unfold create at hcreate
    split at hcreate
    · cases hcreate
    · cases hcreate
      rfl
  refine ⟨isOpen, ?_⟩
  unfold bootstrap Progress.stepUplink
  simp only
  rw [Progress.performUplink_gateway]
  refine hconnect.trans ?_
  rw [huplink]

/-- Periods that are configured do not overflow a clock if each of them leaves room for one
beat. -/
theorem fits_of_valid (h : config.Valid)
    (hadvertise : config.advertisePeriod + config.keepAlivePeriod ≤ 2 ^ 64 - 1)
    (hchecking : config.checkingPeriod + config.keepAlivePeriod ≤ 2 ^ 64 - 1)
    (clock : Uplink.Clock) : clock.Fits config := by
  have hword : UInt64.size = 2 ^ 64 := rfl
  cases clock with
  | advertising =>
    refine ⟨h.keepAlivePeriod, h.advertisePeriod, ?_⟩
    simp only [Uplink.Clock.threshold]
    omega
  | checking =>
    refine ⟨h.keepAlivePeriod, h.checkingPeriod, ?_⟩
    simp only [Uplink.Clock.threshold]
    omega

/-- Whatever happens after the broker has taken the connection of the gateway, the number of
beats tells what the gateway has done. It has pinged with every beat and with nothing else but
the answer of the broker to a connection; it was advertised on every device link once in as
many beats as it takes for the period of the advertisements, whatever became of it on the
others; and silent devices were looked for once in as many beats as it takes for the period of
the looks. No clock ever overflows. -/
theorem keep_alive_cadence (hcreate : create config = .ok gateway)
    (hadvertise : config.advertisePeriod + config.keepAlivePeriod ≤ 2 ^ 64 - 1)
    (hchecking : config.checkingPeriod + config.keepAlivePeriod ≤ 2 ^ 64 - 1)
    (opening : Circumstances) (rounds : List Round) :
    let entries := gateway.journalIn opening rounds
    (∀ before handling, .handled before handling ∈ entries →
      before.uplink.advertiseElapsed + config.keepAlivePeriod ≤ 2 ^ 64 - 1 ∧
      before.uplink.checkElapsed + config.keepAlivePeriod ≤ 2 ^ 64 - 1) ∧
    ∀ past before handling later, entries = past ++ .handled before handling :: later →
      (Entry.handled before handling).accepts config = true →
      (∀ entry ∈ past, entry.accepts config = false) →
      let links := (before.dispatch handling.circumstances
        handling.envelope).progress.gateway.uplink.links
      let beats := later.countP (·.isBeat config)
      ((later.filter (!·.isConnack config)).flatMap (·.events)).countP (·.isPing config) =
        beats ∧
      (∃ sweeps : List (List LinkName),
        (later.flatMap (·.events)).filterMap (·.advertised?) = sweeps.flatten ∧
        sweeps.length = beats / (config.advertisePeriod ⌈/⌉ config.keepAlivePeriod) ∧
        ∀ sweep ∈ sweeps, links <+: sweep ∧
          ((∀ entry ∈ later, entry.isLoss config = false) → sweep = links)) ∧
      (later.map (·.looks)).sum =
        beats / (config.checkingPeriod ⌈/⌉ config.keepAlivePeriod) := by
  intro entries
  have hfits := fits_of_valid (valid_of_create hcreate) hadvertise hchecking
  have htidy := tidy_bootstrap hcreate opening
  obtain ⟨isOpen, hbegun⟩ := uplink_bootstrap hcreate opening
  have hzero (clock : Uplink.Clock) :
      clock.elapsed (gateway.bootstrap opening).1.gateway.uplink = clock.shows config 0 := by
    rw [hbegun, Uplink.Clock.shows, Nat.zero_mod, Nat.zero_mul]
    cases clock <;> rfl
  obtain ⟨last, hworks⟩ := exists_works_journalIn opening rounds gateway
  constructor
  · intro before handling hin
    obtain ⟨past, later, hsplit⟩ := List.append_of_mem hin
    have hsplit : gateway.journalIn opening rounds = past ++ .handled before handling :: later :=
      hsplit
    rw [hsplit] at hworks
    obtain ⟨middle, hpast, hrest⟩ := hworks.split
    cases hrest
    have hbound (clock : Uplink.Clock) :
        clock.elapsed middle.uplink + config.keepAlivePeriod < 2 ^ 64 := by
      rw [(hpast.counted htidy (hfits clock) (hzero clock)).1]
      exact (hfits clock).shows_add_lt _
    exact ⟨Nat.le_pred_of_lt (hbound .advertising), Nat.le_pred_of_lt (hbound .checking)⟩
  · intro past before handling later hsplit haccepts hfirst links beats
    have hsplit : gateway.journalIn opening rounds = past ++ .handled before handling :: later :=
      hsplit
    have hdown : (gateway.bootstrap opening).1.gateway.uplink.connected = false := by
      rw [hbegun]
    rw [hsplit] at hworks
    obtain ⟨hlater, hafter, hconnected, hbegins⟩ :=
      hworks.of_accepts htidy hdown haccepts hfirst
    obtain ⟨-, hpings, -, hlooks⟩ := stages_tell (hlater.tells hafter)
    have hrings (clock : Uplink.Clock) :
        (later.filterMap (·.stage? config)).countP (·.rings config clock) =
          beats / clock.cycle config :=
      (hlater.counted hafter (hfits clock) (hbegins clock (hfits clock) (hzero clock))).2
    obtain ⟨sweeps, hadvertised, hlength, hlinks⟩ := hlater.sweeps hafter hconnected
    exact ⟨hpings, ⟨sweeps, hadvertised, hlength.trans (hrings .advertising), hlinks⟩,
      hlooks.trans (hrings .checking)⟩

/-- A gateway for which no period divides another. -/
def unevenConfig : Config :=
  { keepAlivePeriod := 20, advertisePeriod := 50, checkingPeriod := 30 }

def welcome : Envelope :=
  ⟨some unevenConfig.gatewayAddress, .broker (.connack Broker.Message.accepted)⟩

/-- Six signals to keep a connection alive that was just taken, and some time for what they
cause. -/
def beating : List Round :=
  ⟨[welcome], ⟨0, {}⟩⟩ ::
    (List.replicate 6 ⟨[⟨some unevenConfig.gatewayAddress, .signal .sendKeepAlive⟩], ⟨1, {}⟩⟩ ++
      List.replicate 3 ⟨[], ⟨2, {}⟩⟩)

/-- The gateway is advertised twice, and three times silent devices are looked for. -/
theorem keep_alive_cadence_beating :
    ∃ gateway, create unevenConfig = .ok gateway ∧
      let later := (gateway.journalIn ⟨0, {}⟩ beating).drop 2
      later.countP (·.isBeat unevenConfig) = 6 ∧
        (∃ sweeps : List (List LinkName),
          (later.flatMap (·.events)).filterMap (·.advertised?) = sweeps.flatten ∧
            sweeps.length = 2) ∧
        (later.map (·.looks)).sum = 3 := by
  let gateway : Gateway :=
    { config := unevenConfig, uplink := {}, sessions := [], timers := .none, queue := .empty }
  have hcreate : create unevenConfig = .ok gateway := rfl
  obtain ⟨begun, later, hsplit⟩ : ∃ begun later, gateway.journalIn ⟨0, {}⟩ beating =
      [.arrived welcome] ++ .handled begun ⟨⟨0, {}⟩, welcome⟩ :: later := by
    have hok : (gateway.bootstrap ⟨0, {}⟩).2 = .ok () := by decide +kernel
    have hqueue : (gateway.bootstrap ⟨0, {}⟩).1.gateway.queue = .empty :=
      World.queue_bootstrap gateway ⟨0, {}⟩
    unfold journalIn
    simp only [hok]
    generalize (gateway.bootstrap ⟨0, {}⟩).1.gateway = begun at *
    obtain ⟨config, uplink, sessions, timers, queue⟩ := begun
    cases hqueue
    exact ⟨_, _, rfl⟩
  have hlater : later = (gateway.journalIn ⟨0, {}⟩ beating).drop 2 := by
    rw [hsplit]
    rfl
  have hbeats : later.countP (·.isBeat unevenConfig) = 6 := by
    rw [hlater]
    decide +kernel
  obtain ⟨-, ⟨sweeps, hadvertised, hlength, -⟩, hlooks⟩ :=
    (keep_alive_cadence hcreate (by decide) (by decide) ⟨0, {}⟩ beating).2 _ _ _ _ hsplit rfl
      (fun entry hin => by rw [List.mem_singleton.mp hin]; rfl)
  rw [hbeats] at hlength hlooks
  refine ⟨gateway, hcreate, ?_⟩
  rw [← hlater]
  exact ⟨hbeats, ⟨sweeps, hadvertised, hlength⟩, hlooks⟩

end Gateway

end SensorGateway
