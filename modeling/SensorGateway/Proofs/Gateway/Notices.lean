import SensorGateway.Proofs.Gateway.Stop
import SensorGateway.Proofs.Session.Calls

/-!
What a device notices of one envelope. Either the envelope passes the device by, and
nothing is done for it, or its session takes a turn. `connects_iff` says when the
device becomes connected by it: if its session waits for the broker, and the broker
accepts.
-/

namespace SensorGateway

open Broker (AreIdle EndAsked areIdle_nil)

/-- The session of a device before and after an envelope, and what was done for the device
on links in between. -/
inductive Notice (config : Config) (turn? : Option Session.Turn) (before after : Option Session)
    (dealings : List Session.Effect) : Prop where
  | passed (hnone : turn? = none ∨ before = none) (hafter : after = before)
      (hdealings : dealings = [])
  | taken {turn : Session.Turn} {session : Session} (hturn : turn? = some turn)
      (hsession : before.or (turn.newcomer? config) = some session)
      (hafter : after = if session.endsWith config turn then none
        else some (session.take config turn).session)
      (hdealings : dealings = (session.take config turn).effects.filter (·.usesLink))

namespace Notice

variable {config : Config} {turn? : Option Session.Turn} {before after : Option Session}
variable {dealings : List Session.Effect}

/-- What becomes of a holding with a turn is a notice. -/
theorem of_holding (config : Config) (turn? : Option Session.Turn) (holding : Holding)
    (hempty : holding.dealings = []) :
    Notice config turn? holding.session (turn?.toList.foldl (Holding.take config) holding).session
      (turn?.toList.foldl (Holding.take config) holding).dealings := by
  cases turn? with
  | none => exact .passed (.inl rfl) rfl hempty
  | some turn =>
    cases hsession : holding.session.or (turn.newcomer? config) with
    | none =>
      obtain ⟨hnone, hnewcomer⟩ := Option.or_eq_none_iff.mp hsession
      have htake := Holding.take_of_none hnone hnewcomer
      refine .passed (.inr hnone) (congrArg Holding.session htake) ?_
      exact (congrArg Holding.dealings htake).trans hempty
    | some session =>
      have htake : holding.take config turn = holding.follow config
          (session.endsWith config turn) (session.take config turn) := by
        unfold Holding.take
        rw [hsession]
      refine .taken rfl hsession (congrArg Holding.session htake) ?_
      refine (congrArg Holding.dealings htake).trans ?_
      rw [Holding.follow, hempty]
      rfl

/-- A session that a turn begins is idle. -/
theorem phase_newcomer {turn : Session.Turn} {session : Session}
    (h : turn.newcomer? config = some session) : session.phase = .idle := by
  unfold Session.Turn.newcomer? at h
  split at h <;> cases h
  rfl

/-- A session that does something was there before. -/
theorem eq_of_busy {turn : Session.Turn} {session : Session}
    (hsession : before.or (turn.newcomer? config) = some session)
    (hbusy : session.phase ≠ .idle) : before = some session := by
  cases before with
  | some known => exact hsession
  | none => exact (hbusy (phase_newcomer hsession)).elim

/-- If a session waits for the broker then the broker was asked last, or it waits as
before. -/
theorem dials (h : Notice config turn? before after dealings)
    (hawaits : after.any (·.awaits .connack) = true) :
    EndAsked (dealings.filterMap (·.use?)) ∨
      before.any (·.awaits .connack) = true ∧ AreIdle (dealings.filterMap (·.use?)) := by
  cases h with
  | passed hnone hafter hdealings =>
    rw [hdealings, ← hafter]
    exact .inr ⟨hawaits, areIdle_nil⟩
  | @taken turn session hturn hsession hafter hdealings =>
    have huses : dealings.filterMap (·.use?) = (session.take config turn).linkUses := by
      rw [hdealings, Holding.filterMap_use_filter]
      rfl
    have hphase : (session.take config turn).session.phase = .awaitingConnack := by
      rw [hafter] at hawaits
      split at hawaits
      · cases hawaits
      · exact Session.awaits_connack_iff.mp hawaits
    rw [huses]
    cases Session.take_dials config turn session with
    | apart hapart => exact (hapart hphase).elim
    | asked hasked => exact .inl hasked
    | waits horigin hidle =>
      have hbefore : before = some session :=
        eq_of_busy hsession fun hidle => Session.Phase.noConfusion (horigin.symm.trans hidle)
      rw [hbefore]
      exact .inr ⟨Session.awaits_connack_iff.mpr horigin, hidle⟩

/-- The broker accepts the session on whose behalf it was asked. -/
def Accepts (turn? : Option Session.Turn) (before : Option Session) : Prop :=
  before.any (·.awaits .connack) = true ∧
    ∃ turn, turn? = some turn ∧ turn.input = .broker (.connack Broker.Message.accepted)

def Tells (dealings : List Session.Effect) : Prop :=
  ∃ link target, .device link target (.connack .accepted) ∈ dealings

/-- The session that the broker accepts is connected, and its device is told so. -/
theorem connects_of_accepts (h : Notice config turn? before after dealings)
    (haccepts : Accepts turn? before) (hreached : ∀ session ∈ before, session.Reached) :
    after.any (·.isConnected) = true ∧ Tells dealings := by
  obtain ⟨hawaits, turn, hturn, hinput⟩ := haccepts
  cases before with
  | none => cases hawaits
  | some session =>
    have haccepted : session.IsAcceptedBy turn.input :=
      ⟨Session.awaits_connack_iff.mp hawaits, hinput⟩
    cases h with
    | passed hnone =>
      rcases hnone with hnone | hnone
      · cases hnone.symm.trans hturn
      · cases hnone
    | taken hturn' hsession hafter hdealings =>
      cases hturn.symm.trans hturn'
      cases hsession
      obtain ⟨hconnected, link, heffects⟩ :=
        Session.take_accepted config haccepted (hreached session rfl)
      have hstays : session.endsWith config turn = false := by
        unfold Session.endsWith
        rw [hinput]
      rw [hafter, hstays, hdealings, heffects]
      exact ⟨hconnected, link, session.address, List.mem_singleton_self _⟩

/-- Unless the broker accepts it no session is connected, and no device is told so. -/
theorem declines_of_not_accepts (h : Notice config turn? before after dealings)
    (hother : ¬ Accepts turn? before) (hbefore : before.any (·.isConnected) = false) :
    after.any (·.isConnected) = false ∧ ¬ Tells dealings := by
  cases h with
  | passed hnone hafter hdealings =>
    rw [hafter, hdealings]
    exact ⟨hbefore, fun ⟨link, target, hin⟩ => List.not_mem_nil hin⟩
  | @taken turn session hturn hsession hafter hdealings =>
    have hphase : session.phase.isConnected = false := by
      cases before with
      | some known =>
        cases hsession
        exact hbefore
      | none => rw [phase_newcomer hsession]; rfl
    have hdeclines : (session.take config turn).Declines := by
      refine Session.take_declines config hphase fun haccepted => hother ?_
      have hknown : before = some session := eq_of_busy hsession fun hidle =>
        Session.Phase.noConfusion (haccepted.phase.symm.trans hidle)
      rw [hknown]
      exact ⟨Session.awaits_connack_iff.mpr haccepted.phase, turn, hturn, haccepted.input⟩
    constructor
    · rw [hafter]
      split
      · rfl
      · exact hdeclines.phase
    · rintro ⟨link, target, hin⟩
      rw [hdealings] at hin
      exact hdeclines.told (List.mem_filterMap.mpr ⟨_, List.mem_of_mem_filter hin, rfl⟩)

/-- A session that was not connected is connected if the broker accepts it, and its device
is told so, and otherwise neither happens. -/
theorem connects_iff (h : Notice config turn? before after dealings)
    (hbefore : before.any (·.isConnected) = false)
    (hreached : ∀ session ∈ before, session.Reached) :
    (after.any (·.isConnected) = true ↔ Accepts turn? before) ∧
      (Tells dealings ↔ Accepts turn? before) := by
  by_cases haccepts : Accepts turn? before
  · obtain ⟨hconnected, htells⟩ := h.connects_of_accepts haccepts hreached
    exact ⟨iff_of_true hconnected haccepts, iff_of_true htells haccepts⟩
  · obtain ⟨hapart, hsilent⟩ := h.declines_of_not_accepts haccepts hbefore
    exact ⟨iff_of_false (by rw [hapart]; exact Bool.false_ne_true) haccepts,
      iff_of_false hsilent haccepts⟩

end Notice

/-- A session of which the device was heard. -/
theorem Holding.reached_take (config : Config) {holding : Holding} (turn : Session.Turn)
    (h : ∀ session ∈ holding.session, session.Reached) :
    ∀ session ∈ (holding.take config turn).session, session.Reached := by
  cases hsession : holding.session.or (turn.newcomer? config) with
  | none =>
    obtain ⟨hnone, hnewcomer⟩ := Option.or_eq_none_iff.mp hsession
    rw [take_of_none hnone hnewcomer, hnone]
    exact fun session hin => (Option.not_mem_none session hin).elim
  | some session =>
    have hreached : session.Reached := by
      cases hknown : holding.session with
      | some known =>
        rw [hknown] at hsession
        cases hsession
        exact h _ hknown
      | none =>
        rw [hknown] at hsession
        exact fun _ => Notice.phase_newcomer hsession
    intro next hnext
    unfold take at hnext
    simp only [hsession, follow] at hnext
    split at hnext
    · cases hnext
    · cases hnext
      exact hreached.take turn

namespace Gateway

variable {config : Config} {gateway : Gateway} {progress : Progress} {handled : List Handling}
variable {address : Address}

def isConnectedAt (gateway : Gateway) (address : Address) : Bool :=
  (gateway.session? address).any (·.isConnected)

/-- A device is not connected as long as the broker has to accept it. -/
theorem isConnectedAt_of_awaits (h : gateway.awaitsAt address .connack = true) :
    gateway.isConnectedAt address = false := by
  unfold awaitsAt at h
  unfold isConnectedAt
  cases hsession : gateway.session? address with
  | none => rfl
  | some session =>
    rw [hsession] at h
    have hphase := Session.awaits_connack_iff.mp h
    simp [Session.isConnected, hphase, Session.Phase.isConnected]

/-- Whatever was handled, a session that has not heard its device yet is idle. -/
theorem Trace.reached (h : Trace config handled progress)
    (hforeign : progress.gateway.isOwn address = false) :
    ∀ session ∈ progress.gateway.session? address, session.Reached := by
  rw [isOwn, h.tidy.config] at hforeign
  have hholding := congrArg Holding.session (h.holding hforeign)
  change progress.gateway.session? address = _ at hholding
  rw [hholding]
  generalize handled.filterMap (·.turnFor? address) = turns
  have hnone : ∀ session ∈ Holding.none.session, session.Reached :=
    fun session hin => (Option.not_mem_none session hin).elim
  revert hnone
  generalize Holding.none = holding
  intro hholding
  induction turns generalizing holding with
  | nil => exact hholding
  | cons turn turns ih => exact ih _ (Holding.reached_take config turn hholding)

/-- What a device notices as an envelope is handled. -/
theorem notice_dispatch (h : gateway.Tidy config)
    (hforeign : address.same config.gatewayAddress = false) (handling : Handling) :
    let handled := gateway.dispatch handling.circumstances handling.envelope
    Notice config (handling.turnFor? address) (gateway.session? address)
      (handled.progress.gateway.session? address) (handled.progress.dealings address) := by
  have hnotice : Notice config (handling.turnFor? address) (gateway.session? address) _ _ :=
    Notice.of_holding config (handling.turnFor? address)
      ((Progress.start gateway).holding address) rfl
  cases hends : handling.endsAll with
  | false =>
    rw [← holding_dispatch h hforeign hends] at hnotice
    exact hnotice
  | true =>
    obtain ⟨circumstances, envelope⟩ := handling
    obtain rfl : envelope = ⟨none, .signal .shutDown⟩ := eq_of_beq hends
    have hstart : (Progress.start gateway).gateway.Tidy config := h
    have hstopped := holding_shutDownAll_device hstart circumstances hforeign
    have hsession : (shutDownAll circumstances (.start gateway)).gateway.session? address = _ :=
      congrArg Holding.session hstopped
    have hdealings : (shutDownAll circumstances (.start gateway)).dealings address = _ :=
      congrArg Holding.dealings hstopped
    change Notice config _ _ ((shutDownAll circumstances (.start gateway)).gateway.session? address)
      ((shutDownAll circumstances (.start gateway)).dealings address)
    rw [hsession, hdealings]
    exact hnotice

/-- A device is told a message of the broker just where the envelope is for it. -/
theorem Handling.turnFor?_broker {handling : Handling} {message : Broker.Message} :
    (∃ turn, handling.turnFor? address = some turn ∧ turn.input = .broker message) ↔
      ∃ owner, handling.envelope = ⟨some owner, .broker message⟩ ∧
        owner.same address = true := by
  obtain ⟨circumstances, envelope⟩ := handling
  constructor
  · rintro ⟨turn, hturn, hinput⟩
    obtain ⟨owner, payload⟩ := envelope
    cases owner with
    | none =>
      cases payload with
      | sensor => cases hturn
      | broker => cases hturn
      | signal =>
        cases hturn
        cases hinput
    | some owner =>
      cases payload with
      | broker other =>
        obtain ⟨hsame, hheard⟩ := Option.ite_none_right_eq_some.mp hturn
        cases hheard
        cases hinput
        exact ⟨owner, rfl, hsame⟩
      | sensor =>
        obtain ⟨-, hheard⟩ := Option.ite_none_right_eq_some.mp hturn
        cases hheard
        cases hinput
      | signal =>
        obtain ⟨-, hheard⟩ := Option.ite_none_right_eq_some.mp hturn
        cases hheard
        cases hinput
  · rintro ⟨owner, henvelope, hsame⟩
    obtain rfl : envelope = ⟨some owner, .broker message⟩ := henvelope
    exact ⟨_, if_pos hsame, rfl⟩

end Gateway

end SensorGateway
