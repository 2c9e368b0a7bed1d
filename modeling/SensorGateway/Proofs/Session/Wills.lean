import SensorGateway.Proofs.Session.Deeds

/-!
Where the CONNECT comes from by which a broker gets to know a device. A device
that has a will is asked for it first, and what it says is put together over many
turns: its CONNECT, the topic of the will and the message. `connects_merge` says
that nothing else gets into it. It speaks of the parts by the turns in which they
were heard, so that no part can be an old one or be used twice.
-/

namespace SensorGateway.Session

namespace Life

def connects (life : Life) (n : Nat) : List Broker.Connect := (life.step n).connects

/-- Nothing comes of what is heard in a turn, except that a device which is
connected may be told so again. -/
def PassesOver (life : Life) (n : Nat) : Prop :=
  (life.step n).effects = [] ∨
    ∃ link target, (life.step n).effects = [.device link target (.connack .accepted)]

/-- The CONNECT that is dealt with before a turn: of those that were not passed over
it is the latest, and the broker was not asked yet. -/
structure TakenUp (life : Life) (i n : Nat) (request : Sensor.Connect) : Prop where
  heard : life.Hears i (.connect request)
  kept : ¬ life.PassesOver i
  latest : ∀ m other, i < m → m < n → life.Hears m (.connect other) → life.PassesOver m
  unasked : ∀ m, i ≤ m → m < n → life.connects m = []

/-- The device is asked in one turn for the topic of its will, and tells it in a later
turn, until which nothing else is waited for. -/
structure TellsTopic (life : Life) (i k : Nat) (will : Sensor.WillTopic) : Prop where
  order : i < k
  requested : .willTopicRequest ∈ (life.step i).told
  awaited : ∀ m, i < m → m ≤ k → (life.before m).awaits .willTopic = true
  told : life.Hears k (.willTopic will)
  requestedMessage : .willMessageRequest ∈ (life.step k).told

def AwaitsMessage (life : Life) (k n : Nat) : Prop :=
  k < n ∧ ∀ m, k < m → m ≤ n → (life.before m).awaits .willMessage = true

/-- The will that the broker is to know of, from what the device told. -/
def Merges (will : Sensor.WillTopic) (data : Bytes) (merged : Option Broker.Will) : Prop :=
  merged =
    if will.topic = "" then none
    else some {
      topic := will.topic
      data := data
      qos := (will.flags.getD {}).qos.level?.getD 0
      retain := (will.flags.getD {}).retain }

/-- A CONNECT of a device and the one that is handed to the broker link for it. -/
structure Introduces (life : Life) (i n : Nat) (connect : Broker.Connect) : Prop where
  order : i ≤ n
  parts : ∃ request, life.TakenUp i n request ∧
    connect.protocolName = life.config.connect.protocolName ∧
    connect.protocolVersion = life.config.connect.protocolVersion ∧
    connect.clientId = request.clientId ∧
    connect.keepAlive = request.duration ∧
    connect.cleanSession = request.flags.cleanSession ∧
    (request.flags.will = false → i = n ∧ connect.will = none) ∧
    (request.flags.will = true → ∃ k will data, life.TellsTopic i k will ∧
      life.AwaitsMessage k n ∧ life.Hears n (.willMessage data) ∧ Merges will data connect.will)

variable {life : Life} {i k m n : Nat} {request : Sensor.Connect}

/-! ### One turn -/

/-- The broker is not asked for what is passed over. -/
theorem connects_of_passesOver (h : life.PassesOver n) : life.connects n = [] := by
  rcases h with h | ⟨link, target, h⟩ <;>
    simp [connects, Transition.connects, Transition.handed, h, Effect.handed?]

/-- While the device is asked for its will, another CONNECT is passed over. -/
theorem passesOver_of_busy
    (hbusy : ¬ ((life.before n).phase = .idle ∨ (life.before n).phase = .awaitingConnack))
    (h : life.Hears n (.connect request)) : life.PassesOver n := by
  obtain ⟨seen, link, hinput⟩ := h
  rw [PassesOver, life.step_of_sensor hinput]
  exact Transition.effects_connect_passedOver (by rwa [phase_opening])

/-- Only a device that gets on with being connected has the broker asked for it. -/
theorem connects_or_establishing (life : Life) (n : Nat) :
    life.connects n = [] ∨
      Establishing (life.context n) (life.turn n).input (life.opening n) (life.step n) := by
  obtain ⟨concern, hadds, hestablishing, -⟩ := (life.deed n).adds
  by_cases hconcern : concern = .connecting
  · exact .inr (hestablishing hconcern)
  · exact .inl (hadds.connects_eq hconcern)

/-! ### What is being dealt with -/

/-- A session that asks its device for a will does so for the CONNECT that is taken
up, and knows the topic that the device told. -/
def Pending (life : Life) (n : Nat) : Phase → Prop
  | .awaitingWillTopic request _ =>
      request.flags.will = true ∧ ∃ i, i < n ∧ life.TakenUp i n request ∧
        .willTopicRequest ∈ (life.step i).told ∧
          ∀ m, i < m → m ≤ n → (life.before m).awaits .willTopic = true
  | .awaitingWillMessage request will _ =>
      request.flags.will = true ∧ ∃ i k, life.TakenUp i n request ∧ life.TellsTopic i k will ∧
        life.AwaitsMessage k n
  | .idle | .awaitingConnack | .connected _ => True

/-- What is taken up stays so over a turn in which the broker is not asked. -/
theorem TakenUp.keep (h : life.TakenUp i n request)
    (hasks : (life.before n).phase.asksForWill = true) (hnone : life.connects n = []) :
    life.TakenUp i (n + 1) request := by
  have hbusy : ¬ ((life.before n).phase = .idle ∨ (life.before n).phase = .awaitingConnack) := by
    rintro (hphase | hphase) <;> rw [hphase] at hasks <;> cases hasks
  refine ⟨h.heard, h.kept, fun m other hafter hbefore hheard => ?_, fun m hafter hbefore => ?_⟩
  · rcases Nat.lt_succ_iff_lt_or_eq.mp hbefore with hbefore | rfl
    · exact h.latest m other hafter hbefore hheard
    · exact passesOver_of_busy hbusy hheard
  · rcases Nat.lt_succ_iff_lt_or_eq.mp hbefore with hbefore | rfl
    · exact h.unasked m hafter hbefore
    · exact hnone

theorem awaits_willTopic {tries : UInt32}
    (hphase : (life.before n).phase = .awaitingWillTopic request tries) :
    (life.before n).awaits .willTopic = true := by
  simp only [awaits, hphase]

theorem awaits_willMessage {will : Sensor.WillTopic} {tries : UInt32}
    (hphase : (life.before n).phase = .awaitingWillMessage request will tries) :
    (life.before n).awaits .willMessage = true := by
  simp only [awaits, hphase]

theorem Pending.keep_topic {tries more : UInt32}
    (h : life.Pending n (.awaitingWillTopic request tries))
    (hphase : (life.before n).phase = .awaitingWillTopic request tries)
    (hnone : life.connects n = [])
    (hnext : (life.before (n + 1)).phase = .awaitingWillTopic request more) :
    life.Pending (n + 1) (.awaitingWillTopic request more) := by
  obtain ⟨hwill, i, hbefore, htaken, hrequested, hawaited⟩ := h
  refine ⟨hwill, i, Nat.lt_succ_of_lt hbefore, htaken.keep (by rw [hphase]; rfl) hnone,
    hrequested, ?_⟩
  exact forall_le_succ hawaited (awaits_willTopic hnext)

theorem Pending.keep_message {will : Sensor.WillTopic} {tries more : UInt32}
    (h : life.Pending n (.awaitingWillMessage request will tries))
    (hphase : (life.before n).phase = .awaitingWillMessage request will tries)
    (hnone : life.connects n = [])
    (hnext : (life.before (n + 1)).phase = .awaitingWillMessage request will more) :
    life.Pending (n + 1) (.awaitingWillMessage request will more) := by
  obtain ⟨hwill, i, k, htaken, htells, hbefore, hawaited⟩ := h
  refine ⟨hwill, i, k, htaken.keep (by rw [hphase]; rfl) hnone, htells,
    Nat.lt_succ_of_lt hbefore, ?_⟩
  exact forall_le_succ hawaited (awaits_willMessage hnext)

/-- What is pending stays so as long as the phase does and the broker is not asked. -/
theorem Pending.keep (h : life.Pending n (life.before n).phase) (hnone : life.connects n = [])
    (hsame : (life.before (n + 1)).phase = (life.before n).phase) :
    life.Pending (n + 1) (life.before (n + 1)).phase := by
  rw [hsame]
  cases hphase : (life.before n).phase with
  | awaitingWillTopic request tries =>
    exact Pending.keep_topic (hphase ▸ h) hphase hnone (hsame.trans hphase)
  | awaitingWillMessage request will tries =>
    exact Pending.keep_message (hphase ▸ h) hphase hnone (hsame.trans hphase)
  | _ => trivial

/-- A CONNECT for which the device is asked for its will is taken up. -/
theorem takenUp_of_wish (hheard : life.Hears n (.connect request))
    (htold : .willTopicRequest ∈ (life.step n).told) (hnone : life.connects n = []) :
    life.TakenUp n (n + 1) request := by
  refine ⟨hheard, fun hpasses => ?_, fun m other hafter hbefore => ?_, fun m hafter hbefore => ?_⟩
  · rcases hpasses with heffects | ⟨link, target, heffects⟩ <;>
      simp [Transition.told, heffects, Effect.told?] at htold
  · omega
  · obtain rfl : m = n := by omega
    exact hnone

/-- A session that gets on with connecting its device does so for what is taken up. -/
theorem pending_of_establishing
    (hestablishing :
      Establishing (life.context n) (life.turn n).input (life.opening n) (life.step n))
    (h : life.Pending n (life.before n).phase) :
    life.Pending (n + 1) (life.before (n + 1)).phase := by
  have hquiet (hadds : Transition.Adds .other (life.opening n) (life.step n)) :
      life.connects n = [] := hadds.connects_eq (by decide)
  have hover {phase : Phase} (hnext : (life.step n).session.phase = phase)
      (hphase : phase = .idle ∨ phase = .awaitingConnack) :
      life.Pending (n + 1) (life.before (n + 1)).phase := by
    rw [show (life.before (n + 1)).phase = phase from hnext]
    rcases hphase with rfl | rfl <;> trivial
  -- a wish begins anew, the topic moves on to the message, and a timeout changes the
  -- number of tries only
  cases hestablishing with
  | wish hinput hwill hfree hnext hadds htold =>
    have hheard : life.Hears n _ := ⟨_, _, hinput⟩
    have htold := htold (life.link_opening n (.inr ⟨_, hheard⟩))
    rw [show (life.before (n + 1)).phase = _ from hnext]
    refine ⟨hwill, n, Nat.lt_succ_self n, takenUp_of_wish hheard htold (hquiet hadds), htold,
      fun m hafter hlast => ?_⟩
    obtain rfl : m = n + 1 := by omega
    exact awaits_willTopic hnext
  | ask _ _ _ hasked => exact hover rfl hasked.phase
  | willTopic hinput hphase hnext hadds htold =>
    rw [phase_opening] at hphase
    have hheard : life.Hears n _ := ⟨_, _, hinput⟩
    have htold := htold (life.link_opening n (.inr ⟨_, hheard⟩))
    rw [hphase] at h
    obtain ⟨hwill, i, hbefore, htaken, hrequested, hawaited⟩ := h
    rw [show (life.before (n + 1)).phase = _ from hnext]
    refine ⟨hwill, i, n, htaken.keep (by rw [hphase]; rfl) (hquiet hadds),
      ⟨hbefore, hrequested, hawaited, hheard, htold⟩, Nat.lt_succ_self n, fun m hafter hlast => ?_⟩
    obtain rfl : m = n + 1 := by omega
    exact awaits_willMessage hnext
  | willMessage _ _ hasked => exact hover rfl hasked.phase
  | retryTopic _ hphase hnext hadds =>
    rw [phase_opening] at hphase
    rw [show (life.before (n + 1)).phase = _ from hnext]
    exact Pending.keep_topic (hphase ▸ h) hphase (hquiet hadds) hnext
  | retryMessage _ hphase hnext hadds =>
    rw [phase_opening] at hphase
    rw [show (life.before (n + 1)).phase = _ from hnext]
    exact Pending.keep_message (hphase ▸ h) hphase (hquiet hadds) hnext
  | giveUp _ _ hnext => exact hover hnext (.inl rfl)

theorem pending_of_not_asking (h : (life.before n).phase.asksForWill = false) :
    life.Pending n (life.before n).phase := by
  cases hphase : (life.before n).phase with
  | awaitingWillTopic => rw [hphase] at h; cases h
  | awaitingWillMessage => rw [hphase] at h; cases h
  | _ => trivial

/-- What a session waits for after a turn is pending then, if it was before. -/
theorem pending_succ (h : life.Pending n (life.before n).phase) :
    life.Pending (n + 1) (life.before (n + 1)).phase := by
  rcases (life.deed n).phase with hsame | hnot | hestablishing
  · rcases life.connects_or_establishing n with hnone | hestablishing
    · exact h.keep hnone (hsame.trans (life.phase_opening n))
    · exact pending_of_establishing hestablishing h
  · exact pending_of_not_asking hnot
  · exact pending_of_establishing hestablishing h

theorem pending (life : Life) (n : Nat) : life.Pending n (life.before n).phase := by
  induction n with
  | zero => trivial
  | succ n ih => exact pending_succ ih

/-! ### What the broker is told -/

/-- The will that the broker is told of is what the device told, put together. -/
theorem brokerWill_merges (will : Sensor.WillTopic) (data : Bytes) :
    Merges will data (brokerWill will data) := by
  simp only [Merges, brokerWill, brokerLevel, String.isEmpty_iff]

/-- What is handed to the broker link was put together from what the device said. -/
theorem introduces_of_mem {connect : Broker.Connect} (hin : connect ∈ life.connects n) :
    life.connects n = [connect] ∧ ∃ i, life.Introduces i n connect := by
  have honly {asked : Broker.Connect}
      (h : Asked (life.context n) asked (life.opening n) (life.step n)) :
      life.connects n = [connect] ∧ connect = asked := by
    rcases h.connects with hconnects | ⟨hconnects, -⟩
    · have hone : life.connects n = [asked] := hconnects
      obtain rfl : connect = asked := List.mem_singleton.mp (hone ▸ hin)
      exact ⟨hone, rfl⟩
    · have hnone : life.connects n = [] := hconnects
      rw [hnone] at hin
      cases hin
  have hsome : life.connects n ≠ [] := List.ne_nil_of_mem hin
  have hnothing (hadds : Transition.Adds .other (life.opening n) (life.step n)) : False :=
    hsome (hadds.connects_eq (by decide))
  have hestablishing := (life.connects_or_establishing n).resolve_left hsome
  have hpending := life.pending n
  cases hestablishing with
  | ask hinput hwill hfree hasked =>
    obtain ⟨hone, rfl⟩ := honly hasked
    refine ⟨hone, n, Nat.le_refl n, _, ⟨⟨_, _, hinput⟩, fun hpasses => ?_, ?_, ?_⟩, rfl, rfl, rfl,
      rfl, rfl, fun _ => ⟨rfl, rfl⟩, fun hset => ?_⟩
    · exact hsome (connects_of_passesOver hpasses)
    · intro m other hafter hbefore
      omega
    · intro m hafter hbefore
      omega
    · cases hwill.symm.trans hset
  | willMessage hinput hphase hasked =>
    obtain ⟨hone, rfl⟩ := honly hasked
    rw [phase_opening] at hphase
    rw [hphase] at hpending
    obtain ⟨hwill, i, k, htaken, htells, hawaits⟩ := hpending
    refine ⟨hone, i, Nat.le_of_lt (Nat.lt_trans htells.order hawaits.1), _, htaken, rfl, rfl, rfl,
      rfl, rfl, fun hunset => ?_,
      fun _ => ⟨k, _, _, htells, hawaits, ⟨_, _, hinput⟩, brokerWill_merges _ _⟩⟩
    cases hwill.symm.trans hunset
  | wish _ _ _ _ hadds => exact (hnothing hadds).elim
  | willTopic _ _ _ hadds => exact (hnothing hadds).elim
  | retryTopic _ _ _ hadds => exact (hnothing hadds).elim
  | retryMessage _ _ _ hadds => exact (hnothing hadds).elim
  | giveUp _ _ _ hadds => exact (hnothing hadds).elim

/-- A later CONNECT would have been passed over. -/
theorem Introduces.not_lt {connect : Broker.Connect} (h : life.Introduces i n connect)
    (h' : life.Introduces k n connect) : ¬ i < k := by
  intro hlater
  obtain ⟨request, htaken, -, -, -, -, -, hnow, hmerged⟩ := h.parts
  obtain ⟨other, htaken', -⟩ := h'.parts
  rcases Nat.lt_or_eq_of_le h'.order with hbefore | rfl
  · exact htaken'.kept (htaken.latest k other hlater hbefore htaken'.heard)
  · cases hwill : request.flags.will with
    | false => exact Nat.ne_of_lt hlater (hnow hwill).1
    | true =>
      obtain ⟨-, -, data, -, -, ⟨seen, link, hinput⟩, -⟩ := hmerged hwill
      obtain ⟨seen', link', hinput'⟩ := htaken'.heard
      cases hinput.symm.trans hinput'

/-- A CONNECT to the broker stems from one CONNECT of the device. -/
theorem Introduces.unique {connect : Broker.Connect} (h : life.Introduces i n connect)
    (h' : life.Introduces k n connect) : i = k :=
  Nat.le_antisymm (Nat.not_lt.mp (h'.not_lt h)) (Nat.not_lt.mp (h.not_lt h'))

/-- Once everything is known the broker is asked, if its link can be opened. -/
theorem connects_of_known (hopens : (life.turn n).line.openFailure = none)
    (hknown : (∃ request, life.Hears n (.connect request) ∧ ¬ life.PassesOver n ∧
        request.flags.will = false) ∨
      ∃ data, life.Hears n (.willMessage data) ∧ (life.before n).awaits .willMessage = true) :
    ∃ connect, life.connects n = [connect] := by
  have hone {seen : Address} {message : Sensor.Message} {link : LinkName}
      (hinput : (life.turn n).input = .sensor seen message link)
      (hmessage : (∃ request : Sensor.Connect, message = .connect request ∧
        request.flags.will = false) ∨ ∃ data, message = .willMessage data)
      (h : Establishing (life.context n) (life.turn n).input (life.opening n) (life.step n)) :
      ∃ connect, life.connects n = [connect] := by
    obtain ⟨asked, hasked⟩ := h.asked hinput hmessage
    rcases hasked.connects with hconnects | ⟨-, hfailure⟩
    · exact ⟨asked, hconnects⟩
    · rw [show (life.context n).line.openFailure = none from hopens] at hfailure
      cases hfailure
  rcases hknown with ⟨request, ⟨seen, link, hinput⟩, hkept, hwill⟩ |
    ⟨data, ⟨seen, link, hinput⟩, hawaits⟩
  · have hfree := Decidable.not_not.mp
      fun hbusy => hkept (passesOver_of_busy hbusy ⟨seen, link, hinput⟩)
    refine hone hinput (.inl ⟨request, rfl, hwill⟩) ?_
    rw [life.step_of_sensor hinput]
    exact Transition.establishing_connect hinput (by rwa [phase_opening])
  · refine hone hinput (.inr ⟨data, rfl⟩) ?_
    rw [life.step_of_sensor hinput]
    cases hphase : (life.before n).phase with
    | awaitingWillMessage request will tries =>
      exact Transition.establishing_willMessage hinput ((life.phase_opening n).trans hphase)
    | _ => simp [awaits, hphase] at hawaits

/-- Each CONNECT that is handed to the broker link comes from exactly one CONNECT of
the device, and no two come from the same. It is the latest one that was not passed
over. Without a will it is handed on in the turn in which it is heard; with one, in
the turn in which the device tells the message, after it told the topic, and both
were asked for this CONNECT. -/
theorem connects_merge (life : Life) :
    ∃ source : Nat → Nat,
      (∀ n, ∀ connect ∈ life.connects n,
        life.connects n = [connect] ∧ life.Introduces (source n) n connect ∧
          ∀ i, life.Introduces i n connect → i = source n) ∧
      (∀ m n, life.connects m ≠ [] → life.connects n ≠ [] → source m = source n → m = n) ∧
      ∀ n, (life.turn n).line.openFailure = none →
        ((∃ request, life.Hears n (.connect request) ∧ ¬ life.PassesOver n ∧
            request.flags.will = false) ∨
          ∃ data, life.Hears n (.willMessage data) ∧ (life.before n).awaits .willMessage = true) →
        ∃ connect, life.connects n = [connect] := by
  obtain ⟨source, hsource⟩ := exists_source fun n _ => introduces_of_mem (n := n)
  -- the CONNECT behind the later of two was not yet used when the earlier one was handed on
  have hunused {m n : Nat} (hbefore : m < n) (hfirst : life.connects m ≠ [])
      (hlast : life.connects n ≠ []) : source m ≠ source n := by
    intro hsame
    obtain ⟨first, hfirstIn⟩ := List.exists_mem_of_ne_nil _ hfirst
    obtain ⟨last, hlastIn⟩ := List.exists_mem_of_ne_nil _ hlast
    obtain ⟨request, htaken, -⟩ := (hsource n last hlastIn).2.parts
    exact hfirst (htaken.unasked m (hsame ▸ (hsource m first hfirstIn).2.order) hbefore)
  refine ⟨source, fun n connect hin => ?_, fun m n hm hn hsame => ?_, fun n => connects_of_known⟩
  · obtain ⟨hone, hfrom⟩ := hsource n connect hin
    exact ⟨hone, hfrom, fun i hother => hother.unique hfrom⟩
  · rcases Nat.lt_trichotomy m n with hbefore | heq | hafter
    · exact (hunused hbefore hm hn hsame).elim
    · exact heq
    · exact (hunused hafter hn hm hsame.symm).elim

/-- A device that has a will asks once more under another name while it is asked
for the topic, and is asked twice for the message. -/
def impatient : Life :=
  ofTurns {} meter 0
    [⟨0, {}, .sensor meter (.connect
        { flags := { will := true }, protocolId := 1, duration := 60, clientId := "a" })
          "udp:20000"⟩,
      ⟨1, {}, .sensor meter (.connect
        { flags := {}, protocolId := 1, duration := 5, clientId := "b" }) "udp:20000"⟩,
      ⟨2, {}, .sensor meter (.willTopic
        ⟨some { qos := .minusOne, retain := true }, "gone"⟩) "udp:20000"⟩,
      ⟨3, {}, .signal .willMessageTimeout⟩,
      ⟨4, {}, .sensor meter (.willMessage [1, 2]) "udp:20000"⟩]

/-- The broker gets to know the device by its first CONNECT. -/
theorem connects_merge_impatient :
    ∃ connect : Broker.Connect, impatient.connects 4 = [connect] ∧ connect.clientId = "a" ∧
      connect.will = some { topic := "gone", data := [1, 2], qos := 0, retain := true } ∧
      impatient.PassesOver 1 ∧ impatient.Introduces 0 4 connect := by
  obtain ⟨source, hsource, -, -⟩ := connects_merge impatient
  have hconnects : impatient.connects 4 = [brokerConnect (impatient.context 4)
      { flags := { will := true }, protocolId := 1, duration := 60, clientId := "a" }
      (some { topic := "gone", data := [1, 2], qos := 0, retain := true })] := rfl
  have hpasses : impatient.PassesOver 1 := .inl rfl
  obtain ⟨-, hfrom, -⟩ := hsource 4 _ (hconnects ▸ List.mem_singleton_self _)
  have hfirst : source 4 = 0 := by
    obtain ⟨request, htaken, -⟩ := hfrom.parts
    have horder := hfrom.order
    generalize source 4 = i at htaken horder
    match i, horder with
    | 0, _ => rfl
    | 1, _ => exact (htaken.kept hpasses).elim
    | 2, _ | 3, _ | 4, _ =>
      obtain ⟨seen, link, hheard⟩ := htaken.heard
      cases hheard
  exact ⟨_, hconnects, rfl, rfl, hpasses, hfirst ▸ hfrom⟩

end Life

end SensorGateway.Session
