import Mathlib.Data.List.Induction
import SensorGateway.Proofs.Gateway.OpenLinks
import SensorGateway.Proofs.Session.Silence

/-!
Which devices have a session. A session comes into being with the first message
of its device and goes when a look at it finds that nothing was heard for too
long; nothing else makes it come or go. How long nothing was heard is counted from
the last message of the device or of its broker, so that it is the history of a
device which tells whether it has a session. A sweep is such a look at all
sessions; `session_table` says all that it does.
-/

namespace SensorGateway

namespace Holding

open Session (Turn Dated isOverdue evicts HeardSinceEviction)

variable {config : Config}

def ofTurns (config : Config) (turns : List Turn) : Holding :=
  turns.foldl (Holding.take config) .none

theorem ofTurns_snoc (turns : List Turn) (turn : Turn) :
    ofTurns config (turns ++ [turn]) = (ofTurns config turns).take config turn :=
  List.foldl_concat ..

/-- A session is gone after a turn just where it ends with it. -/
theorem session_take_of_some {holding : Holding} {session : Session}
    (h : holding.session = some session) (turn : Turn) :
    (holding.take config turn).session =
      if session.endsWith config turn then .none else some (session.take config turn).session := by
  rw [take_of_some h]
  rfl

/-- Whether a session ends with a turn can be told from its history. -/
theorem endsWith_of_dated {turns : List Turn} {session : Session}
    (h : Dated config turns session) (turn : Turn) :
    session.endsWith config turn = evicts config turns turn := by
  obtain ⟨heard, hheard, hdeadline⟩ := h
  have hexpired : session.isExpired (turn.context config) = isOverdue config turns turn.now := by
    unfold Session.isExpired isOverdue
    rw [hheard, hdeadline, Option.any_some]
    rfl
  obtain ⟨now, line, input⟩ := turn
  cases input with
  | sensor seen message link => rfl
  | broker message => rfl
  | signal signal => exact congrArg (signal == .checkInactivity && ·) hexpired

/-- A device that has no session gets one by its own word only, and keeps it at least
through this turn. -/
theorem session_take_of_none {holding : Holding} {turn : Turn} (h : holding.session = .none) :
    ((holding.take config turn).session.isSome = turn.isOfDevice) ∧
      ∀ turns, ∀ session ∈ (holding.take config turn).session,
        Dated config (turns ++ [turn]) session := by
  cases hnew : turn.newcomer? config with
  | none =>
    have hother : turn.isOfDevice = false := by
      obtain ⟨now, line, input⟩ := turn
      cases input with
      | sensor seen message link => cases hnew
      | broker message => rfl
      | signal signal => rfl
    rw [take_of_none h hnew, h, hother]
    exact ⟨rfl, fun _ _ hin => by cases hin⟩
  | some fresh =>
    have hword : turn.isOfDevice = true ∧ fresh.endsWith config turn = false := by
      obtain ⟨now, line, input⟩ := turn
      cases input with
      | sensor seen message link => exact ⟨rfl, rfl⟩
      | broker message => cases hnew
      | signal signal => cases hnew
    rw [take_newcomer h hnew, follow, hword.2, hword.1]
    refine ⟨rfl, fun turns session hin => ?_⟩
    cases hin
    refine ⟨turn.now, ?_, ?_⟩
    · rw [Session.lastHeard_snoc, if_pos (Session.isMessage_of_isOfDevice hword.1)]
    · rw [Session.deadline_take, if_pos (Session.isMessage_of_isOfDevice hword.1)]

/-- Every session knows when its device has to be heard again. -/
theorem dated_ofTurns (turns : List Turn) :
    ∀ session ∈ (ofTurns config turns).session, Dated config turns session := by
  induction turns using List.reverseRecOn with
  | nil => exact fun _ hin => by cases hin
  | append_singleton turns turn ih =>
    rw [ofTurns_snoc]
    cases hsession : (ofTurns config turns).session with
    | none => exact (session_take_of_none hsession).2 turns
    | some session =>
      rw [session_take_of_some hsession]
      intro next hnext
      split at hnext
      · cases hnext
      · cases hnext
        exact (ih session hsession).take turn

/-- A session comes with a message of the device, and goes when the device was silent
for too long. -/
theorem isSome_ofTurns_snoc (turns : List Turn) (turn : Turn) :
    (ofTurns config (turns ++ [turn])).session.isSome = true ↔
      turn.isOfDevice = true ∨
        ((ofTurns config turns).session.isSome = true ∧ evicts config turns turn = false) := by
  rw [ofTurns_snoc]
  cases hsession : (ofTurns config turns).session with
  | none =>
    rw [(session_take_of_none hsession).1]
    simp
  | some session =>
    rw [session_take_of_some hsession, endsWith_of_dated (dated_ofTurns turns session hsession)]
    cases hevicts : evicts config turns turn with
    | false => simp
    | true =>
      have hsignal : turn.isOfDevice ≠ true := by
        intro hword
        rw [Session.evicts_of_isMessage config turns (Session.isMessage_of_isOfDevice hword)]
          at hevicts
        cases hevicts
      simp [hsignal]

/-- A device has a session if it was heard since it was last given up. -/
theorem isSome_ofTurns (turns : List Turn) :
    (ofTurns config turns).session.isSome = true ↔ HeardSinceEviction config turns := by
  induction turns using List.reverseRecOn with
  | nil => exact ⟨nofun, fun hheard => (Session.heardSinceEviction_nil config hheard).elim⟩
  | append_singleton turns turn ih =>
    rw [isSome_ofTurns_snoc, Session.heardSinceEviction_snoc, ih]

/-- A turn takes the session of a device away exactly if it is a look at a device that
was silent for too long. -/
theorem isNone_ofTurns_snoc {turns : List Turn} {session : Session}
    (h : (ofTurns config turns).session = some session) (turn : Turn) :
    (ofTurns config (turns ++ [turn])).session = .none ↔ evicts config turns turn = true := by
  rw [ofTurns_snoc, session_take_of_some h, endsWith_of_dated (dated_ofTurns turns session h)]
  cases evicts config turns turn <;> simp

end Holding

namespace Gateway

open Session (evicts isOverdue HeardSinceEviction)

variable {config : Config} {gateway : Gateway} {handled : List Handling} {progress : Progress}
variable {circumstances : Circumstances} {session : Session}

/-! ### Sweeps -/

/-- Gives up a session: its link is closed and its timers end with it. -/
def giveUp (progress : Progress) (session : Session) : Progress where
  gateway := { progress.gateway.removeSession session.address with
    timers := (progress.gateway.timers.unregisterAll session.address).2 }
  events := progress.events ++ [.broker session.address (.closing session.brokerOpen)]

theorem setSession_self (hnodup : gateway.known.Nodup) (hmem : session ∈ gateway.sessions) :
    gateway.setSession session = gateway := by
  have hsame : ∀ other ∈ gateway.sessions,
      (if other.address.same session.address then session else other) = other := by
    intro other hother
    split
    next heq =>
      exact (List.inj_on_of_nodup_map hnodup hother hmem (Address.same_iff.mp heq)).symm
    next => rfl
  unfold setSession
  rw [List.map_congr_left hsame, List.map_id']

/-- What a session was brought up to makes no difference once it is taken away. -/
theorem removeSession_setSession (gateway : Gateway) (session : Session) :
    (gateway.setSession session).removeSession session.address =
      gateway.removeSession session.address := by
  have hsessions (sessions : List Session) :
      (sessions.map fun other =>
          if other.address.same session.address then session else other).filter
        (fun other => !other.address.same session.address) =
          sessions.filter fun other => !other.address.same session.address := by
    induction sessions with
    | nil => rfl
    | cons other sessions ih =>
      rw [List.map_cons, List.filter_cons, List.filter_cons, ih]
      cases hsame : other.address.same session.address with
      | true => simp
      | false => simp [hsame]
  exact congrArg (fun sessions => { gateway with sessions }) (hsessions gateway.sessions)

/-- A look at a session gives it up or does nothing. -/
theorem signalSession_look (circumstances : Circumstances) (hnodup : progress.gateway.known.Nodup)
    (hmem : session ∈ progress.gateway.sessions) :
    signalSession circumstances .checkInactivity progress session =
      if session.deadline < circumstances.now then giveUp progress session else progress := by
  have hends : session.endsAt
      (progress.gateway.sessionContext circumstances session.address) .checkInactivity =
        decide (session.deadline < circumstances.now) := rfl
  unfold signalSession Session.onSignal
  simp only [hends, decide_eq_true_eq]
  split
  next hlate =>
    have hremoved := removeSession_setSession progress.gateway
      { session with brokerOpen := false }
    exact congrArg (fun gateway : Gateway => Progress.mk
      { gateway with timers := (gateway.timers.unregisterAll session.address).2 }
      (progress.events ++ [.broker session.address (.closing session.brokerOpen)])) hremoved
  next hfresh =>
    have hsame := setSession_self hnodup hmem
    exact congrArg (Progress.mk · progress.events) hsame

def withoutAll (gone : List Session) (gateway : Gateway) : Gateway :=
  { gateway with
    sessions := gateway.sessions.filter fun session =>
      !gone.any (session.address.same ·.address)
    timers := (gateway.timers.cancel fun timer => gone.any (timer.address.same ·.address)).2 }

theorem foldl_giveUp (gone : List Session) (progress : Progress) :
    gone.foldl giveUp progress =
      ⟨progress.gateway.withoutAll gone,
        progress.events ++ gone.map fun session =>
          .broker session.address (.closing session.brokerOpen)⟩ := by
  induction gone generalizing progress with
  | nil => simp [withoutAll, Timers.cancel]
  | cons session gone ih =>
    rw [List.foldl_cons, ih]
    simp [withoutAll, giveUp, removeSession, Timers.unregisterAll, Timers.cancel,
      List.filter_filter, Bool.and_comm]

/-- Looks at some sessions give up those that were silent for too long. -/
theorem foldl_signalSession_look (circumstances : Circumstances) (sessions : List Session)
    (hnodup : progress.gateway.known.Nodup)
    (hmem : ∀ session ∈ sessions, session ∈ progress.gateway.sessions)
    (hdistinct : (sessions.map (·.address.identity)).Nodup) :
    sessions.foldl (signalSession circumstances .checkInactivity) progress =
      (sessions.filter (·.deadline < circumstances.now)).foldl giveUp progress := by
  induction sessions generalizing progress with
  | nil => rfl
  | cons session sessions ih =>
    rw [List.map_cons, List.nodup_cons] at hdistinct
    rw [List.foldl_cons, signalSession_look circumstances hnodup (hmem session List.mem_cons_self)]
    split
    next hlate =>
      have hkept : (giveUp progress session).gateway.known.Nodup :=
        hnodup.sublist (known_removeSession progress.gateway session.address)
      have hstill : ∀ other ∈ sessions, other ∈ (giveUp progress session).gateway.sessions := by
        intro other hother
        refine List.mem_filter.mpr ⟨hmem other (List.mem_cons_of_mem _ hother), ?_⟩
        rw [Bool.not_eq_true', Bool.eq_false_iff, ne_eq, Address.same_iff]
        intro heq
        exact hdistinct.1 (heq ▸ List.mem_map_of_mem hother)
      rw [ih hkept hstill hdistinct.2, List.filter_cons_of_pos (by simpa using hlate)]
      rfl
    next hfresh =>
      have hstill : ∀ other ∈ sessions, other ∈ progress.gateway.sessions :=
        fun other hother => hmem other (List.mem_cons_of_mem _ hother)
      rw [ih hnodup hstill hdistinct.2, List.filter_cons_of_neg (by simpa using hfresh)]

/-- Of several sessions that a sweep looks at, those that it gives up are found by their
devices. -/
theorem any_filter_same (hnodup : gateway.known.Nodup) (gives : Session → Bool)
    (hmem : session ∈ gateway.sessions) :
    (gateway.sessions.filter gives).any (session.address.same ·.address) = gives session := by
  rw [List.any_filter, Bool.eq_iff_iff, List.any_eq_true]
  constructor
  · rintro ⟨other, hother, hboth⟩
    obtain ⟨hgives, hsame⟩ := Bool.and_eq_true_iff.mp hboth
    have heq := List.inj_on_of_nodup_map hnodup hmem hother (Address.same_iff.mp hsame)
    rw [heq]
    exact hgives
  · intro hgives
    exact ⟨session, hmem, by rw [hgives, Address.same_self]; rfl⟩

theorem filter_same (hnodup : gateway.known.Nodup) (address : Address) :
    gateway.sessions.filter (·.address.same address) = (gateway.session? address).toList := by
  unfold session?
  unfold known at hnodup
  generalize gateway.sessions = sessions at hnodup ⊢
  induction sessions with
  | nil => rfl
  | cons session sessions ih =>
    rw [List.map_cons, List.nodup_cons] at hnodup
    cases hsame : session.address.same address with
    | false =>
      rw [List.filter_cons_of_neg (by simp [hsame]), List.find?_cons_of_neg (by simp [hsame]),
        ih hnodup.2]
    | true =>
      have hothers : sessions.filter (·.address.same address) = [] := by
        rw [List.filter_eq_nil_iff]
        intro other hother hagain
        refine hnodup.1 (List.mem_map.mpr ⟨other, hother, ?_⟩)
        exact (Address.same_iff.mp hagain).trans (Address.same_iff.mp hsame).symm
      rw [List.filter_cons_of_pos (by simpa using hsame), hothers]
      simp [hsame]

/-- Whether a look for one device or for all of them is at this session. -/
def isLookedAt (target : Option Address) (session : Session) : Bool :=
  target.all (session.address.same ·)

/-- A look leaves the uplink alone and goes from session to session. -/
theorem dispatch_look (h : gateway.Tidy config) (circumstances : Circumstances)
    (target : Option Address) :
    gateway.dispatch circumstances ⟨target, .signal .checkInactivity⟩ =
      .proceed ((gateway.sessions.filter (isLookedAt target)).foldl
        (signalSession circumstances .checkInactivity) (.start gateway)) := by
  cases target with
  | none =>
    have hall : gateway.sessions.filter (isLookedAt none) = gateway.sessions :=
      List.filter_eq_self.mpr fun _ _ => rfl
    rw [hall]
    rfl
  | some address =>
    change gateway.dispatchSignal circumstances address .checkInactivity = .proceed
      ((gateway.sessions.filter (·.address.same address)).foldl _ _)
    rw [filter_same h.nodup]
    unfold dispatchSignal
    simp only
    split
    next hown =>
      have hnone : gateway.session? address = none := by
        rw [session?, List.find?_eq_none]
        intro session hmem hsame
        have hforeign := h.isOwn_session hmem
        rw [isOwn, Address.same_congr_left hsame] at hforeign
        exact Bool.eq_false_iff.mp hforeign hown
      rw [hnone]
      rfl
    next =>
      cases gateway.session? address with
      | none => rfl
      | some session => rfl

/-! ### The table of sessions -/

def history (handled : List Handling) (address : Address) : List Session.Turn :=
  handled.filterMap (·.turnFor? address)

theorem Trace.holding_eq (htrace : Trace config handled progress) {address : Address}
    (hforeign : address.same config.gatewayAddress = false) :
    progress.holding address = Holding.ofTurns config (history handled address) :=
  htrace.holding hforeign

theorem history_snoc (handled : List Handling) (handling : Handling) (address : Address) :
    history (handled ++ [handling]) address =
      history handled address ++ (handling.turnFor? address).toList := by
  unfold history
  rw [List.filterMap_append]
  cases hturn : handling.turnFor? address <;> simp [hturn]

/-- What is known of a device is known from its history. -/
theorem Trace.isSome_session? (htrace : Trace config handled progress) {address : Address}
    (hforeign : address.same config.gatewayAddress = false) :
    (progress.gateway.session? address).isSome = true ↔
      HeardSinceEviction config (history handled address) := by
  have hholding := htrace.holding_eq hforeign
  rw [← Holding.isSome_ofTurns, ← hholding]
  rfl

/-- The history of its device tells all about a session. -/
theorem Trace.session_ofTurns (htrace : Trace config handled progress)
    (hmem : session ∈ progress.gateway.sessions) :
    (Holding.ofTurns config (history handled session.address)).session = some session := by
  rw [← htrace.holding_eq (htrace.tidy.foreign_session hmem)]
  exact session?_of_mem htrace.tidy.nodup hmem

/-- A session has been silent for too long if its history says so. -/
theorem Trace.isLate_iff (htrace : Trace config handled progress)
    (hmem : session ∈ progress.gateway.sessions) (now : Nat) :
    session.deadline < now ↔ isOverdue config (history handled session.address) now = true := by
  have hheld := htrace.session_ofTurns hmem
  obtain ⟨heard, hheard, hdeadline⟩ := Holding.dated_ofTurns _ session hheld
  rw [isOverdue, hheard, hdeadline, Option.any_some, decide_eq_true_eq]

theorem countP_le_one (h : gateway.Tidy config) (address : Address) :
    gateway.sessions.countP (·.address.same address) ≤ 1 := by
  rw [List.countP_eq_length_filter, filter_same h.nodup]
  cases gateway.session? address <;> simp

/-- An envelope takes the session of a device away exactly if it is a look at a device that
was silent for too long. -/
theorem Trace.session?_dispatch_iff (htrace : Trace config handled progress) {address : Address}
    (hforeign : address.same config.gatewayAddress = false)
    (hsome : progress.gateway.session? address = some session) {handling : Handling}
    (hgoes : handling.endsAll = false) :
    (progress.gateway.dispatch handling.circumstances
        handling.envelope).progress.gateway.session? address = none ↔
      ∃ turn, handling.turnFor? address = some turn ∧
        evicts config (history handled address) turn = true := by
  have hheld : (Holding.ofTurns config (history handled address)).session = some session := by
    rw [← htrace.holding_eq hforeign]
    exact hsome
  have hnext := (htrace.handle handling hgoes).holding_eq hforeign
  have hsession : (progress.gateway.dispatch handling.circumstances
      handling.envelope).progress.gateway.session? address =
        (Holding.ofTurns config (history (handled ++ [handling]) address)).session :=
    congrArg Holding.session hnext
  rw [hsession, history_snoc]
  cases handling.turnFor? address with
  | none => simp [hheld]
  | some turn =>
    rw [Option.toList_some, Holding.isNone_ofTurns_snoc hheld]
    simp

def givesUp (config : Config) (handled : List Handling) (target : Option Address) (now : Nat)
    (session : Session) : Bool :=
  isLookedAt target session && isOverdue config (history handled session.address) now

/-- A look gives up the sessions that it is at and that were silent for too long, and
nothing else. -/
theorem Trace.dispatch_look (htrace : Trace config handled progress)
    (circumstances : Circumstances) (target : Option Address) :
    progress.gateway.dispatch circumstances ⟨target, .signal .checkInactivity⟩ =
      .proceed ((progress.gateway.sessions.filter
        (givesUp config handled target circumstances.now)).foldl giveUp
          (.start progress.gateway)) := by
  have hmem : ∀ session ∈ progress.gateway.sessions.filter (isLookedAt target),
      session ∈ progress.gateway.sessions := fun _ hin => List.mem_of_mem_filter hin
  have hdistinct : ((progress.gateway.sessions.filter (isLookedAt target)).map
      (·.address.identity)).Nodup :=
    htrace.tidy.nodup.sublist (List.filter_sublist.map _)
  have hnodup : (Progress.start progress.gateway).gateway.known.Nodup := htrace.tidy.nodup
  have hlate : ∀ session ∈ progress.gateway.sessions,
      (decide (session.deadline < circumstances.now) && isLookedAt target session) =
        givesUp config handled target circumstances.now session := by
    intro session hin
    rw [givesUp, Bool.and_comm, Bool.eq_iff_iff, Bool.and_eq_true, Bool.and_eq_true,
      decide_eq_true_eq, htrace.isLate_iff hin]
  rw [Gateway.dispatch_look htrace.tidy,
    foldl_signalSession_look circumstances _ hnodup hmem hdistinct, List.filter_filter,
    List.filter_congr hlate]

/-- What is left after a look. -/
theorem Trace.dispatch_look_eq (htrace : Trace config handled progress)
    (circumstances : Circumstances) (target : Option Address) :
    let gone := progress.gateway.sessions.filter
      (givesUp config handled target circumstances.now)
    progress.gateway.dispatch circumstances ⟨target, .signal .checkInactivity⟩ = .proceed
      { gateway := { progress.gateway with
          sessions := progress.gateway.sessions.filter fun session =>
            !givesUp config handled target circumstances.now session
          timers := (progress.gateway.timers.cancel fun timer =>
            gone.any (timer.address.same ·.address)).2 }
        events := gone.map fun session =>
          .broker session.address (.closing session.brokerOpen) } := by
  intro gone
  have hleft : (progress.gateway.sessions.filter fun session =>
      !gone.any (session.address.same ·.address)) =
      progress.gateway.sessions.filter fun session =>
        !givesUp config handled target circumstances.now session :=
    List.filter_congr fun session hmem =>
      congrArg not (any_filter_same htrace.tidy.nodup _ hmem)
  rw [htrace.dispatch_look, foldl_giveUp]
  unfold withoutAll Progress.start
  rw [← hleft]
  rfl

/-- The link of a session that a look gives up is closed. -/
theorem Trace.linkOpen_of_givesUp (htrace : Trace config handled progress)
    {circumstances : Circumstances} {target : Option Address}
    (hmem : session ∈ progress.gateway.sessions)
    (hgone : givesUp config handled target circumstances.now session = true) :
    ((progress.gateway.dispatch circumstances
      ⟨target, .signal .checkInactivity⟩).progress.after progress.events).linkOpen
        session.address = false := by
  have hgoes : Handling.endsAll ⟨circumstances, target, .signal .checkInactivity⟩ = false := by
    cases target <;> rfl
  have hafter := htrace.handle _ hgoes
  have hnone : (progress.gateway.dispatch circumstances
      ⟨target, .signal .checkInactivity⟩).progress.gateway.session? session.address = none := by
    rw [htrace.dispatch_look_eq circumstances target]
    refine List.find?_eq_none.mpr fun other hother hsame => ?_
    obtain ⟨hother, hstays⟩ := List.mem_filter.mp hother
    have heq := List.inj_on_of_nodup_map htrace.tidy.nodup hother hmem (Address.same_iff.mp hsame)
    rw [heq, hgone] at hstays
    cases hstays
  have hconfig : (progress.gateway.dispatch circumstances
      ⟨target, .signal .checkInactivity⟩).progress.gateway.config = progress.gateway.config :=
    hafter.tidy.config.trans htrace.tidy.config.symm
  have hforeign : (progress.gateway.dispatch circumstances
      ⟨target, .signal .checkInactivity⟩).progress.gateway.isOwn session.address = false := by
    rw [isOwn, hconfig]
    exact htrace.tidy.isOwn_session hmem
  exact (hafter.sealed hforeign).absent hnone

/-- The table of sessions. A device has one session at most and the gateway has none. A
device has one exactly if it was heard since it was last given up, and it is
given up by a look that comes later than the longest silence after the last
message of the device or its broker. A look closes the links and ends the timers of
those that it gives up, and leaves all else as it is. -/
theorem session_table (htrace : Trace config handled progress) :
    (∀ address, progress.gateway.sessions.countP (·.address.same address) ≤ 1) ∧
    (∀ session ∈ progress.gateway.sessions,
      session.address.same config.gatewayAddress = false) ∧
    (∀ address, address.same config.gatewayAddress = false →
      ((∃ session ∈ progress.gateway.sessions, session.address.same address = true) ↔
        HeardSinceEviction config (history handled address)) ∧
      ∀ handling : Handling, handling.endsAll = false →
        (∃ session ∈ progress.gateway.sessions, session.address.same address = true) →
        ((∀ session ∈ (progress.gateway.dispatch handling.circumstances
              handling.envelope).progress.gateway.sessions,
            session.address.same address = false) ↔
          ∃ turn, handling.turnFor? address = some turn ∧
            evicts config (history handled address) turn = true)) ∧
    ∀ circumstances target,
      let goes := givesUp config handled target circumstances.now
      let gone := progress.gateway.sessions.filter goes
      let outcome := progress.gateway.dispatch circumstances ⟨target, .signal .checkInactivity⟩
      outcome = .proceed
        { gateway := { progress.gateway with
            sessions := progress.gateway.sessions.filter (!goes ·)
            timers := (progress.gateway.timers.cancel fun timer =>
              gone.any (timer.address.same ·.address)).2 }
          events := gone.map fun session =>
            .broker session.address (.closing session.brokerOpen) } ∧
      ∀ session ∈ gone,
        (outcome.progress.after progress.events).linkOpen session.address = false := by
  have hexists (gateway : Gateway) (address : Address) :
      (∃ session ∈ gateway.sessions, session.address.same address = true) ↔
        (gateway.session? address).isSome = true := List.find?_isSome.symm
  refine ⟨countP_le_one htrace.tidy, fun session hmem => ?_, fun address hforeign => ⟨?_, ?_⟩,
    fun circumstances target => ⟨htrace.dispatch_look_eq circumstances target, ?_⟩⟩
  · have hown := htrace.tidy.isOwn_session hmem
    rwa [isOwn, htrace.tidy.config] at hown
  · rw [hexists, htrace.isSome_session? hforeign]
  · intro handling hgoes hhas
    obtain ⟨session, hsome⟩ := Option.isSome_iff_exists.mp ((hexists _ address).mp hhas)
    rw [← htrace.session?_dispatch_iff hforeign hsome hgoes, session?, List.find?_eq_none]
    simp only [Bool.not_eq_true]
  · intro session hgone
    exact htrace.linkOpen_of_givesUp (List.mem_filter.mp hgone).1 (List.mem_filter.mp hgone).2

/-- A device that was connected and then silent for too long is given up by the next sweep,
which closes its link. -/
theorem session_table_connectAndFallSilent :
    ∃ connected : Progress, ∃ device : Address,
      Trace {} ((connectAndFallSilent device).take 2) connected ∧
      HeardSinceEviction {} (history ((connectAndFallSilent device).take 2) device) ∧
      let sweep := connected.gateway.dispatch ⟨1000000000000000, {}⟩
        ⟨none, .signal .checkInactivity⟩
      sweep.progress.gateway.sessions = [] ∧
        sweep.progress.events = [.broker device (.closing true)] ∧
        (sweep.progress.after connected.events).linkOpen device = false := by
  have hcreated : Trace {} [] _ := .create rfl
  have hasked := hcreated.handle (connectAndFallSilent (.plain ⟨.v4 10 0 0 7, 1234, 0⟩))[0] rfl
  have hconnected := hasked.handle (connectAndFallSilent (.plain ⟨.v4 10 0 0 7, 1234, 0⟩))[1] rfl
  obtain ⟨-, -, hheard, hsweep⟩ := session_table hconnected
  obtain ⟨houtcome, hclosed⟩ := hsweep ⟨1000000000000000, {}⟩ none
  have hhas := (hheard (.plain ⟨.v4 10 0 0 7, 1234, 0⟩) rfl).1.mp
    ⟨_, List.mem_singleton_self _, rfl⟩
  have hgone := hclosed _ (List.mem_filter.mpr ⟨List.mem_singleton_self _, by decide⟩)
  refine ⟨_, _, hconnected, hhas, ?_, ?_, hgone⟩
  · rw [houtcome]
    rfl
  · rw [houtcome]
    rfl

end Gateway

end SensorGateway
