import Mathlib.Data.Nat.Init
import SensorGateway.Config.Validation
import SensorGateway.Proofs.Session.Calls
import SensorGateway.Proofs.Session.Speech
import SensorGateway.Proofs.Session.Wills

/-!
The client id by which a session goes, and the one by which the broker knows its
device. A session takes the id of every CONNECT that it hears, also of one from
which nothing comes, while the broker gets to know the device by the CONNECT that
was taken up. `clientId_of_latest` says how the two belong together: they are the
same unless the device has said another id since, in a CONNECT that was passed
over.
-/

namespace SensorGateway.Session

namespace Transition

variable {context : Context} {t : Transition}

/-- Only if the broker was asked is its answer waited for. -/
theorem connects_of_awaiting {request : Sensor.Connect} {will : Option Broker.Will}
    (h : (t.connectBroker context request will).session.phase.usesBroker = true) :
    (t.connectBroker context request will).connects =
      t.connects ++ [brokerConnect context request will] := by
  have hbefore : ((t.enter .idle).openBroker context.line).2.connects = t.connects := by
    have hopened : Adds .other t ((t.enter .idle).openBroker context.line).2 :=
      (((Adds.refl .other t).update _).emit (.inl rfl)).update _
    exact hopened.connects_eq (by decide)
  have hidle : ((t.enter .idle).openBroker context.line).2.session.phase = .idle := rfl
  unfold connectBroker at h ⊢
  rcases hopen : (t.enter .idle).openBroker context.line with ⟨isOpen, opened⟩
  rw [hopen] at h hbefore hidle
  cases isOpen with
  | false =>
    rw [hidle] at h
    cases h
  | true =>
    have hconnects := connects_sendBroker (t := opened) context.line
      (brokerConnect context request will)
    have hphase : (opened.sendBroker context.line
        (.connect (brokerConnect context request will))).2.session.phase = .idle := hidle
    simp only at h ⊢
    rcases hsend : opened.sendBroker context.line (.connect (brokerConnect context request will))
      with ⟨taken, sent⟩
    rw [hsend] at h hconnects hphase
    cases taken with
    | false =>
      have hclosed : sent.closeBroker.session.phase = sent.session.phase := rfl
      rw [hclosed, hphase] at h
      cases h
    | true => exact hconnects.trans (by rw [hbefore])

/-- A device that asks again before the broker has answered is connected anew. -/
theorem connects_of_again {request : Sensor.Connect} (hphase : t.session.phase = .awaitingConnack)
    (h : (t.connect context request).session.phase.usesBroker = true) :
    (t.connect context request).connects ≠ t.connects := by
  let closed := (t.update fun session =>
    { session with clientId := request.clientId }).closeBroker.enter .idle
  have hbefore : closed.connects = t.connects := by
    have hclosed : Adds .other t closed :=
      (((Adds.refl .other t).update _).closeBroker).update _
    exact hclosed.connects_eq (by decide)
  have hconnect : t.connect context request = closed.establish context request := by
    simp only [connect, update, hphase]
    rfl
  rw [hconnect] at h ⊢
  unfold establish at h ⊢
  cases hwill : request.flags.will with
  | true =>
    rw [hwill, if_pos rfl] at h
    cases h
  | false =>
    rw [hwill, if_neg Bool.false_ne_true] at h
    rw [if_neg Bool.false_ne_true, connects_of_awaiting h, hbefore]
    simp

/-- If the link takes a request to connect the device, it was handed to it. -/
theorem connects_ne_nil_of_asks (h : t.linkUses.any (·.asks) = true) : t.connects ≠ [] := by
  obtain ⟨use, huse, hasks⟩ := List.any_eq_true.mp h
  obtain ⟨effect, heffect, hsome⟩ := List.mem_filterMap.mp huse
  cases effect with
  | broker used =>
    cases hsome
    cases use with
    | sending wasOpen message result isOpen =>
      cases message with
      | connect request =>
        have hhanded : .connect request ∈ t.handed := List.mem_filterMap.mpr ⟨_, heffect, rfl⟩
        exact List.ne_nil_of_mem (List.mem_filterMap.mpr ⟨_, hhanded, rfl⟩)
      | _ => cases hasks
    | opening => cases hasks
    | closing => cases hasks
  | _ => cases hsome

end Transition

namespace Life

/-- The latest CONNECT of the device before a turn, and when it was heard. -/
structure LastHeard (life : Life) (k n : Nat) (request : Sensor.Connect) : Prop where
  order : k < n
  heard : life.Hears k (.connect request)
  latest : ∀ m other, k < m → m < n → ¬ life.Hears m (.connect other)

/-- The latest CONNECT that was handed to the broker link before a turn. Since then
the broker is waited for or the device is connected. -/
structure LastAsked (life : Life) (i n : Nat) (connect : Broker.Connect) : Prop where
  order : i < n
  handed : life.connects i = [connect]
  latest : ∀ m, i < m → m < n → life.connects m = []
  used : ∀ m, i < m → m ≤ n → (life.before m).phase.usesBroker = true

variable {life : Life} {i j k m n : Nat} {request : Sensor.Connect} {connect : Broker.Connect}

/-! ### What the session hears -/

theorem clientId_succ (life : Life) (n : Nat) :
    (life.before (n + 1)).clientId = (life.turn n).input.clientId (life.before n).clientId :=
  (take_speaks life.config (life.turn n) (life.before n)).clientId

/-- A session goes by the client id of the CONNECT that it has just heard. -/
theorem clientId_of_hears (h : life.Hears n (.connect request)) :
    (life.before (n + 1)).clientId = request.clientId := by
  obtain ⟨seen, link, hinput⟩ := h
  rw [clientId_succ, hinput]
  rfl

/-- Without a CONNECT it goes by the one of before. -/
theorem clientId_of_not_hears (h : ∀ request, ¬ life.Hears n (.connect request)) :
    (life.before (n + 1)).clientId = (life.before n).clientId := by
  rw [clientId_succ]
  cases hinput : (life.turn n).input with
  | sensor seen message link =>
    cases message with
    | connect request => exact (h request ⟨seen, link, hinput⟩).elim
    | _ => rfl
  | broker message => rfl
  | signal signal => rfl

/-- A session goes by the id that its device has told last. -/
theorem LastHeard.clientId (h : life.LastHeard k n request) :
    (life.before n).clientId = request.clientId := by
  obtain ⟨horder, hheard, hlatest⟩ := h
  induction n, horder using Nat.le_induction with
  | base => exact clientId_of_hears hheard
  | succ n horder ih =>
    have hnot : ∀ other, ¬ life.Hears n (.connect other) :=
      fun other => hlatest n other horder (Nat.lt_succ_self n)
    rw [clientId_of_not_hears hnot]
    exact ih fun m other hafter hbefore => hlatest m other hafter (Nat.lt_succ_of_lt hbefore)

/-- Of the CONNECTs that were heard one is the latest. -/
theorem exists_lastHeard (hheard : life.Hears j (.connect request)) (horder : j < n) :
    ∃ k last, j ≤ k ∧ life.LastHeard k n last := by
  induction n, horder using Nat.le_induction with
  | base => exact ⟨j, request, Nat.le_refl j, Nat.lt_succ_self j, hheard, by omega⟩
  | succ n horder ih =>
    by_cases hlast : ∃ other, life.Hears n (.connect other)
    · obtain ⟨other, hother⟩ := hlast
      exact ⟨n, other, Nat.le_of_lt horder, Nat.lt_succ_self n, hother, by omega⟩
    · obtain ⟨k, last, hafter, hlatest⟩ := ih
      refine ⟨k, last, hafter, Nat.lt_succ_of_lt hlatest.order, hlatest.heard, ?_⟩
      intro m other hlater hbefore hhears
      rcases Nat.lt_succ_iff_lt_or_eq.mp hbefore with hbefore | rfl
      · exact hlatest.latest m other hlater hbefore hhears
      · exact hlast ⟨other, hhears⟩

/-! ### What the broker hears -/

/-- A session begins to use the broker by asking it, and in no other way. -/
theorem usesBroker_of_succ (hnext : (life.before (n + 1)).phase.usesBroker = true)
    (hnone : life.connects n = []) : (life.before n).phase.usesBroker = true := by
  cases hphase : (life.before (n + 1)).phase with
  | awaitingConnack =>
    have hdials : (life.step n).Dials (life.before n).phase :=
      take_dials life.config (life.turn n) (life.before n)
    cases hdials with
    | apart hapart => exact (hapart hphase).elim
    | asked huses => exact (Transition.connects_ne_nil_of_asks huses.any_asks hnone).elim
    | waits horigin => rw [horigin]; rfl
  | connected exchanges =>
    by_contra hnot
    rw [Bool.not_eq_true] at hnot
    have happart := isConnected_of_usesBroker hnot
    have hother : ¬ (life.before n).IsAcceptedBy (life.turn n).input := by
      intro haccepted
      rw [haccepted.phase] at hnot
      cases hnot
    have hdeclines := take_declines life.config happart hother
    have hconnected : (life.step n).session.phase.isConnected = true :=
      isConnected_of_connected hphase
    exact absurd (hconnected.symm.trans hdeclines.phase) (by decide)
  | idle => rw [hphase] at hnext; cases hnext
  | awaitingWillTopic => rw [hphase] at hnext; cases hnext
  | awaitingWillMessage => rw [hphase] at hnext; cases hnext

/-- A request that has just been handed to the broker is the latest one. -/
theorem lastAsked_of_mem (hin : connect ∈ life.connects n)
    (hnext : (life.before (n + 1)).phase.usesBroker = true) :
    life.LastAsked n (n + 1) connect := by
  refine ⟨Nat.lt_succ_self n, (introduces_of_mem hin).1, by omega, ?_⟩
  intro m hafter hbefore
  obtain rfl : m = n + 1 := by omega
  exact hnext

/-- A session that uses the broker has asked it. -/
theorem exists_lastAsked (h : (life.before n).phase.usesBroker = true) :
    ∃ i connect, life.LastAsked i n connect := by
  induction n with
  | zero => cases h
  | succ n ih =>
    by_cases hnone : life.connects n = []
    · obtain ⟨i, connect, horder, hhanded, hlatest, hused⟩ := ih (usesBroker_of_succ h hnone)
      refine ⟨i, connect, Nat.lt_succ_of_lt horder, hhanded, ?_, forall_le_succ hused h⟩
      intro m hafter hbefore
      rcases Nat.lt_succ_iff_lt_or_eq.mp hbefore with hbefore | rfl
      · exact hlatest m hafter hbefore
      · exact hnone
    · obtain ⟨connect, hin⟩ := List.exists_mem_of_ne_nil _ hnone
      exact ⟨n, connect, lastAsked_of_mem hin h⟩

/-! ### What is passed over -/

/-- Nothing comes of a CONNECT after which the broker still has the one of before. -/
theorem passesOver_of_usesBroker (hbefore : (life.before n).phase.usesBroker = true)
    (hnext : (life.before (n + 1)).phase.usesBroker = true) (hnone : life.connects n = [])
    (h : life.Hears n (.connect request)) : life.PassesOver n := by
  apply passesOver_of_busy _ h
  rintro (hidle | hwaits)
  · rw [hidle] at hbefore
    cases hbefore
  · obtain ⟨seen, link, hinput⟩ := h
    have hstep : life.step n = (life.opening n).connect (life.context n) request :=
      life.step_of_sensor hinput
    have hphase : (life.opening n).session.phase = .awaitingConnack :=
      (life.phase_opening n).trans hwaits
    have hconnects : (life.step n).connects ≠ (life.opening n).connects := by
      rw [before_succ, hstep] at hnext
      rw [hstep]
      exact Transition.connects_of_again hphase hnext
    exact hconnects hnone

/-- After the CONNECT by which the broker knows the device, nothing came of any. -/
theorem LastAsked.passesOver (h : life.LastAsked i n connect) (hfrom : life.Introduces j i connect)
    (hafter : j < m) (hbefore : m < n) (hheard : life.Hears m (.connect request)) :
    life.PassesOver m := by
  obtain ⟨first, htaken, -, -, -, -, -, hnow, hmerged⟩ := hfrom.parts
  rcases Nat.lt_trichotomy m i with hearlier | rfl | hlater
  · exact htaken.latest m request hafter hearlier hheard
  · -- the broker is asked in this turn, for another CONNECT, as the will is told
    cases hwill : first.flags.will with
    | false => exact absurd (hnow hwill).1 (Nat.ne_of_lt hafter)
    | true =>
      obtain ⟨-, -, data, -, -, ⟨seen, link, hinput⟩, -⟩ := hmerged hwill
      obtain ⟨seen', link', hinput'⟩ := hheard
      cases hinput.symm.trans hinput'
  · apply passesOver_of_usesBroker (h.used m hlater (Nat.le_of_lt hbefore)) _ _ hheard
    · exact h.used (m + 1) (Nat.lt_succ_of_lt hlater) hbefore
    · exact h.latest m hlater hbefore

/-- A session uses its connection while it is connected or waits for that. -/
theorem usesBroker_iff (session : Session) :
    session.phase.usesBroker = true ↔
      session.isConnected = true ∨ session.awaits .connack = true := by
  obtain ⟨_, _, _, _, _, phase, _, _, _⟩ := session
  cases phase <;> simp [Phase.usesBroker, isConnected, Phase.isConnected, awaits]

/-- While a device is connected, or the broker is waited for, the session goes by the
id of the CONNECT that it heard last, and the broker knows the device by the one of
the CONNECT that was handed to the link last. This is one that the device said no
later than the other, and all that it said since were passed over. So the two ids
differ exactly if the last CONNECT was passed over and tells another id. -/
theorem clientId_of_latest (life : Life) (n : Nat)
    (h : (life.before n).isConnected = true ∨ (life.before n).awaits .connack = true) :
    ∃ j i k connect last,
      life.LastAsked i n connect ∧ life.Introduces j i connect ∧
      life.LastHeard k n last ∧ j ≤ k ∧ (life.before n).clientId = last.clientId ∧
      (∀ m other, j < m → m < n → life.Hears m (.connect other) → life.PassesOver m) ∧
      ((life.before n).clientId ≠ connect.clientId ↔
        life.PassesOver k ∧ last.clientId ≠ connect.clientId) := by
  obtain ⟨i, connect, hasked⟩ := exists_lastAsked ((usesBroker_iff _).mpr h)
  obtain ⟨-, j, hfrom⟩ := introduces_of_mem (hasked.handed ▸ List.mem_singleton_self connect)
  obtain ⟨request, htaken, -, -, hclientId, -⟩ := hfrom.parts
  have horder : j < n := Nat.lt_of_le_of_lt hfrom.order hasked.order
  obtain ⟨k, last, hafter, hlast⟩ := exists_lastHeard htaken.heard horder
  have hpassed : ∀ m other, j < m → m < n → life.Hears m (.connect other) → life.PassesOver m :=
    fun m other hlater hbefore hheard => hasked.passesOver hfrom hlater hbefore hheard
  refine ⟨j, i, k, connect, last, hasked, hfrom, hlast, hafter, hlast.clientId, hpassed, ?_⟩
  rw [hlast.clientId]
  constructor
  · intro hdiffer
    refine ⟨?_, hdiffer⟩
    rcases Nat.lt_or_eq_of_le hafter with hlater | rfl
    · exact hpassed k last hlater hlast.order hlast.heard
    · -- the last CONNECT is the one that was taken up, so that the ids are the same
      obtain ⟨seen, link, hinput⟩ := htaken.heard
      obtain ⟨seen', link', hinput'⟩ := hlast.heard
      cases hinput.symm.trans hinput'
      exact absurd hclientId.symm hdiffer
  · exact fun hpasses => hpasses.2

/-- A device that is connected as "d" and then asks to be connected as "other". -/
def renamed : Life :=
  ofTurns {} meter 0
    [⟨0, {}, .sensor meter (.connect
        { flags := {}, protocolId := 1, duration := 60, clientId := "d" }) "udp:20000"⟩,
      ⟨1, {}, .broker (.connack Broker.Message.accepted)⟩,
      ⟨2, {}, .sensor meter (.connect
        { flags := {}, protocolId := 1, duration := 60, clientId := "other" }) "udp:20000"⟩]

/-- What the broker is asked as the device connects. -/
theorem lastAsked_renamed :
    renamed.LastAsked 0 3 (brokerConnect (renamed.context 0)
      { flags := {}, protocolId := 1, duration := 60, clientId := "d" } none) := by
  constructor
  · decide
  · rfl
  · intro m hafter hbefore
    match m, hafter, hbefore with
    | 1, _, _ => rfl
    | 2, _, _ => rfl
  · intro m hafter hbefore
    match m, hafter, hbefore with
    | 1, _, _ => rfl
    | 2, _, _ => rfl
    | 3, _, _ => rfl

/-- It is told once more that it is connected, and goes by the id that the broker does
not know. -/
theorem clientId_of_latest_renamed :
    (renamed.before 3).isConnected = true ∧
    ∃ i connect, renamed.LastAsked i 3 connect ∧ connect.clientId = "d" ∧
      (renamed.before 3).clientId = "other" ∧ renamed.PassesOver 2 := by
  have hconnected : (renamed.before 3).isConnected = true := rfl
  obtain ⟨-, i, k, connect, last, hasked, -, hlast, -, hclientId, -, hdiffer⟩ :=
    clientId_of_latest renamed 3 (.inl hconnected)
  have hknown : connect.clientId = "d" := by
    have hhanded := hasked.handed
    match i, hasked.order with
    | 0, _ => cases hhanded; rfl
    | 1, _ => cases hhanded
    | 2, _ => cases hhanded
  have hother : (renamed.before 3).clientId = "other" := rfl
  have hpasses : renamed.PassesOver k := by
    have hnotsame : (renamed.before 3).clientId ≠ connect.clientId := by
      rw [hother, hknown]
      decide
    exact (hdiffer.mp hnotsame).1
  have hsecond : k = 2 := by
    have horder := hlast.order
    by_contra hearlier
    exact hlast.latest 2 _ (by omega) (by omega) ⟨_, _, rfl⟩
  exact ⟨hconnected, i, connect, hasked, hknown, hother, hsecond ▸ hpasses⟩

/-- So the broker does not know every connected device by the id of its session. -/
theorem not_all_known_by_clientId :
    ¬ ∀ (life : Life) (n i : Nat) (connect : Broker.Connect),
      life.config.validate = .ok () →
        (life.before n).isConnected = true ∨ (life.before n).awaits .connack = true →
          life.LastAsked i n connect → (life.before n).clientId = connect.clientId := by
  intro hall
  have hsame := hall renamed 3 0 _ rfl (.inl rfl) lastAsked_renamed
  have hother : (renamed.before 3).clientId = "other" := rfl
  rw [hother] at hsame
  exact absurd hsame (by decide)

end Life

end SensorGateway.Session
