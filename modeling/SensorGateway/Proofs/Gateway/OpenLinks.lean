import SensorGateway.Proofs.Gateway.Isolation
import SensorGateway.Proofs.Session.Connections

/-!
No broker link is left open. A link is open while the broker knows the device or
is about to answer it, and at no other time; and with a session its link goes.
What is open is seen in two places, in the session and in what has happened on
the link, and the two agree.
-/

namespace SensorGateway

open Session (Fits)

def Progress.linkUses (address : Address) (progress : Progress) : List Broker.LinkUse :=
  (progress.dealings address).filterMap (·.use?)

/-- Whether the broker link of a device is open after all that has happened on
it. It starts closed. -/
def Progress.linkOpen (address : Address) (progress : Progress) : Bool :=
  Broker.openAfter false (progress.linkUses address)

namespace Holding

def linkOpen (holding : Holding) : Bool :=
  Broker.openAfter false (holding.dealings.filterMap (·.use?))

/-- How the session of a device and its broker link belong together. -/
structure Sealed (holding : Holding) : Prop where
  fits : ∀ session, holding.session = some session →
    session.brokerOpen = holding.linkOpen ∧ ∃ connections, Fits false session connections
  absent : holding.session = .none → holding.linkOpen = false

theorem sealed_none : none.Sealed :=
  ⟨fun session hsome => (Option.some_ne_none session hsome.symm).elim, fun _ => rfl⟩

/-- Only what uses a link uses the broker link. -/
theorem filterMap_use_filter (effects : List Session.Effect) :
    (effects.filter (·.usesLink)).filterMap (·.use?) = effects.filterMap (·.use?) := by
  rw [List.filterMap_filter]
  apply List.filterMap_congr
  intro effect _
  cases effect <;> rfl

/-- A link is as its last use leaves it. -/
theorem linkOpen_follow (config : Config) (ends : Bool) (t : Session.Transition)
    (holding : Holding) :
    (holding.follow config ends t).linkOpen = Broker.openAfter holding.linkOpen t.linkUses := by
  unfold linkOpen follow
  rw [List.filterMap_append, filterMap_use_filter, Broker.openAfter_append]
  rfl

/-- A session that ends closes its link. -/
theorem closed_of_endsWith {config : Config} {turn : Session.Turn} {session : Session}
    (hends : session.endsWith config turn = true) :
    (session.take config turn).session.brokerOpen = false := by
  obtain ⟨now, line, input⟩ := turn
  cases input with
  | sensor seen message link => cases hends
  | broker message => cases hends
  | signal signal =>
    have hlast : session.endsAt (Session.Turn.context config ⟨now, line, .signal signal⟩) signal =
      true := hends
    unfold Session.take Session.onSignal
    simp only [hlast, if_true]
    rfl

/-- The session of a device takes a turn, and may end with it. -/
theorem Sealed.follow {holding : Holding} {session : Session} {connections : Session.Connections}
    (config : Config) (turn : Session.Turn) (hopen : session.brokerOpen = holding.linkOpen)
    (hfits : Fits false session connections) :
    (holding.follow config (session.endsWith config turn)
      (session.take config turn)).Sealed := by
  have haccounted := (session.take_accounted config turn).brokerOpen
  rw [Session.brokerOpen_hear, hopen,
    ← linkOpen_follow config (session.endsWith config turn)] at haccounted
  have htalking := Session.take_talking config turn hfits
  cases hends : session.endsWith config turn with
  | true =>
    rw [hends, closed_of_endsWith hends] at haccounted
    exact ⟨fun session hsome => (Option.some_ne_none session hsome.symm).elim,
      fun _ => haccounted.symm⟩
  | false =>
    rw [hends] at haccounted
    refine ⟨fun next hnext => ?_, fun hnone => (Option.some_ne_none _ hnone).elim⟩
    cases hnext
    exact ⟨haccounted, _, htalking.fits.unheard⟩

/-- No turn leaves a link open that nobody uses, or a session without the link that it
needs. -/
theorem Sealed.take {holding : Holding} (h : holding.Sealed) (config : Config)
    (turn : Session.Turn) : (holding.take config turn).Sealed := by
  cases hsession : holding.session with
  | some session =>
    obtain ⟨hopen, connections, hfits⟩ := h.fits session hsession
    rw [take_of_some hsession]
    exact Sealed.follow config turn hopen hfits
  | none =>
    cases hturn : turn.newcomer? config with
    | none =>
      rw [take_of_none hsession hturn]
      exact h
    | some session =>
      have hclosed : session.brokerOpen = false := by
        unfold Session.Turn.newcomer? at hturn
        split at hturn <;> cases hturn
        rfl
      rw [take_newcomer hsession hturn]
      exact Sealed.follow config turn (hclosed.trans (h.absent hsession).symm)
        (Session.fits_of_closed hclosed)

theorem sealed_foldl (config : Config) (turns : List Session.Turn) {holding : Holding}
    (h : holding.Sealed) : (turns.foldl (Holding.take config) holding).Sealed := by
  induction turns generalizing holding with
  | nil => exact h
  | cons turn turns ih => exact ih (h.take config turn)

end Holding

/-- A session that may have a connection has one that is accepted, or waits for that. -/
theorem Session.connected_or_awaits {session : Session}
    (h : session.phase.usesBroker = true) :
    session.isConnected = true ∨ session.awaits .connack = true := by
  unfold Session.isConnected Session.awaits
  cases hphase : session.phase with
  | awaitingConnack => exact .inr rfl
  | connected exchanges => exact .inl rfl
  | idle => rw [hphase] at h; cases h
  | awaitingWillTopic => rw [hphase] at h; cases h
  | awaitingWillMessage => rw [hphase] at h; cases h

namespace Gateway

variable {config : Config} {handled : List Handling} {progress : Progress}

/-- The session of a device fits its broker link, whatever was handled. -/
theorem Trace.sealed (htrace : Trace config handled progress) {address : Address}
    (hforeign : progress.gateway.isOwn address = false) : (progress.holding address).Sealed := by
  rw [isOwn, htrace.tidy.config] at hforeign
  rw [htrace.holding hforeign]
  exact Holding.sealed_foldl config _ Holding.sealed_none

/-- As long as the gateway is not shut down, a broker link is open only while its
session is connected or waits for the answer of the broker, and no link of a
device without a session is. In particular a link is closed when its session is
removed, after which nobody uses it. -/
theorem open_only_while_used (htrace : Trace config handled progress) :
    (∀ session ∈ progress.gateway.sessions,
      session.brokerOpen = progress.linkOpen session.address ∧
      (session.brokerOpen = true →
        session.isConnected = true ∨ session.awaits .connack = true)) ∧
    ∀ address, progress.gateway.isOwn address = false →
      progress.gateway.session? address = none → progress.linkOpen address = false := by
  refine ⟨fun session hmem => ?_, fun address hforeign hnone => ?_⟩
  · have hsealed := htrace.sealed (htrace.tidy.isOwn_session hmem)
    obtain ⟨hopen, connections, hfits⟩ :=
      hsealed.fits session (session?_of_mem htrace.tidy.nodup hmem)
    exact ⟨hopen, fun hused => Session.connected_or_awaits (hfits.usesBroker hused)⟩
  · exact (htrace.sealed hforeign).absent hnone

/-- A device that is connected without a will, and then silent for a long time. -/
def connectAndFallSilent (device : Address) : List Handling :=
  [⟨⟨0, {}⟩, ⟨some device, .sensor (.connect
      { flags := {}, protocolId := 1, duration := 60, clientId := "d" }) "udp:20000"⟩⟩,
    ⟨⟨1, {}⟩, ⟨some device, .broker (.connack Broker.Message.accepted)⟩⟩,
    ⟨⟨1000000000000000, {}⟩, ⟨none, .signal .checkInactivity⟩⟩]

/-- Its link is open while it is connected, and closed when it is forgotten. -/
theorem open_only_while_used_connectAndFallSilent :
    ∃ connected forgotten : Progress, ∃ device : Address,
      Trace {} ((connectAndFallSilent device).take 2) connected ∧
      Trace {} (connectAndFallSilent device) forgotten ∧
      (∃ session ∈ connected.gateway.sessions, session.brokerOpen = true ∧
        (session.isConnected = true ∨ session.awaits .connack = true)) ∧
      connected.linkOpen device = true ∧ forgotten.linkOpen device = false := by
  have hcreated : Trace {} [] _ := .create rfl
  have hasked := hcreated.handle (connectAndFallSilent (.plain ⟨.v4 10 0 0 7, 1234, 0⟩))[0] rfl
  have hconnected := hasked.handle (connectAndFallSilent (.plain ⟨.v4 10 0 0 7, 1234, 0⟩))[1] rfl
  have hforgotten :=
    hconnected.handle (connectAndFallSilent (.plain ⟨.v4 10 0 0 7, 1234, 0⟩))[2] rfl
  have hused := (open_only_while_used hconnected).1 _ (List.mem_singleton_self _)
  have hclosed := (open_only_while_used hforgotten).2 (.plain ⟨.v4 10 0 0 7, 1234, 0⟩) rfl rfl
  exact ⟨_, _, _, hconnected, hforgotten, ⟨_, List.mem_singleton_self _, rfl, hused.2 rfl⟩,
    hused.1.symm, hclosed⟩

end Gateway

end SensorGateway
