import SensorGateway.Proofs.Session.Deeds

/-!
Requests of the device that the broker is to confirm, and what the device is told
about them. For each kind of request a life has a history: requests that the
broker took, answers to the device, and that the device was told that it is
disconnected. `requests_answered` says that requests and answers take turns in
it, so that an answer is always for the one request that is open.
-/

namespace SensorGateway.Session

/-- The requests that the broker confirms once. -/
inductive RequestKind where
  /-- A publication at level 1. -/
  | publish
  | subscribe
  | unsubscribe
deriving DecidableEq

/-- What the answer to a request goes by. The topic id is that of a publication. -/
structure Ask where
  msgId : UInt16
  topicId : Option UInt16 := none
deriving DecidableEq

namespace RequestKind

def ofDevice? : RequestKind → Sensor.Message → Option Ask
  | publish, .publish publication =>
      if publication.flags.qos = .atLeastOnce then
        some ⟨publication.msgId, some publication.topicId⟩
      else none
  | subscribe, .subscribe request => some { msgId := request.msgId }
  | unsubscribe, .unsubscribe request => some { msgId := request.msgId }
  | _, _ => none

def toBroker? : RequestKind → Broker.Message → Option UInt16
  | publish, .publish publication => if publication.qos = 1 then some publication.msgId else none
  | subscribe, .subscribe _ msgId _ => some msgId
  | unsubscribe, .unsubscribe _ msgId _ => some msgId
  | _, _ => none

def ofBroker? : RequestKind → Broker.Message → Option UInt16
  | publish, .puback msgId => some msgId
  | subscribe, .suback msgId _ => some msgId
  | unsubscribe, .unsuback msgId => some msgId
  | _, _ => none

def toDevice? : RequestKind → Sensor.Message → Option Ask
  | publish, .puback ack =>
      if ack.returnCode = .accepted then some ⟨ack.msgId, some ack.topicId⟩ else none
  | subscribe, .suback ack =>
      if ack.returnCode = .accepted then some { msgId := ack.msgId } else none
  | unsubscribe, .unsuback msgId => some { msgId }
  | _, _ => none

/-- A request as it was told by the device, under the message id by which the broker
got it. -/
def ask (kind : RequestKind) (input : Input) (msgId : UInt16) : Ask where
  msgId := msgId
  topicId :=
    match kind, input with
    | .publish, .sensor _ (.publish publication) _ => some publication.topicId
    | _, _ => none

end RequestKind

inductive RequestEvent where
  /-- The broker takes a request. -/
  | asked (ask : Ask)
  | answered (ask : Ask)
  /-- The device is told that it is disconnected. -/
  | cancelled
deriving DecidableEq

def Effect.requestEvent? (kind : RequestKind) (input : Input) : Effect → Option RequestEvent
  | broker (.sending _ message (.ok _) _) =>
      (kind.toBroker? message).map fun msgId => .asked (kind.ask input msgId)
  | device _ _ (.disconnect _) => some .cancelled
  | device _ _ message => (kind.toDevice? message).map .answered
  | _ => none

def Transition.requestEvents (kind : RequestKind) (input : Input) (t : Transition) :
    List RequestEvent :=
  t.effects.filterMap (·.requestEvent? kind input)

/-- The request that has neither an answer nor been cancelled. -/
def openRequest (history : List RequestEvent) : Option Ask :=
  match history.getLast? with
  | some (.asked ask) => some ask
  | _ => none

/-- Requests and answers that take turns, beginning with a request. Each answer is for
the request before it, and a request that was cancelled gets none. -/
inductive Alternating : List RequestEvent → Prop where
  | nil : Alternating []
  | asked {history : List RequestEvent} {ask : Ask} (h : Alternating history)
      (hnone : openRequest history = none) : Alternating (history ++ [.asked ask])
  | answered {history : List RequestEvent} {ask : Ask} (h : Alternating history)
      (hsome : openRequest history = some ask) : Alternating (history ++ [.answered ask])
  | cancelled {history : List RequestEvent} (h : Alternating history) :
      Alternating (history ++ [.cancelled])

def Exchanges.request? (kind : RequestKind) (exchanges : Exchanges) : Option Ask :=
  match kind with
  | .publish => exchanges.publish.map fun request => ⟨request.msgId, some request.topicId⟩
  | .subscribe => exchanges.subscribe.map fun request => { msgId := request.msgId }
  | .unsubscribe => exchanges.unsubscribe.map fun request => { msgId := request.msgId }

def request? (kind : RequestKind) (session : Session) : Option Ask :=
  session.exchanges.request? kind

variable {kind : RequestKind} {input : Input}

/-! What waits of one kind has nothing to do with what waits of another. -/

theorem Exchanges.request?_publish (exchanges : Exchanges) (publish : Option PublishInFlight)
    (h : kind ≠ .publish) :
    { exchanges with publish }.request? kind = exchanges.request? kind := by
  cases kind with
  | publish => exact (h rfl).elim
  | _ => rfl

theorem Exchanges.request?_subscribe (exchanges : Exchanges) (subscribe : Option RequestInFlight)
    (h : kind ≠ .subscribe) :
    { exchanges with subscribe }.request? kind = exchanges.request? kind := by
  cases kind with
  | subscribe => exact (h rfl).elim
  | _ => rfl

theorem Exchanges.request?_unsubscribe (exchanges : Exchanges)
    (unsubscribe : Option RequestInFlight) (h : kind ≠ .unsubscribe) :
    { exchanges with unsubscribe }.request? kind = exchanges.request? kind := by
  cases kind with
  | unsubscribe => exact (h rfl).elim
  | _ => rfl

theorem request?_of_phase {session : Session} {exchanges : Exchanges}
    (h : session.phase = .connected exchanges) :
    session.request? kind = exchanges.request? kind := by
  rw [request?, exchanges_of_connected h]

/-- Only connected devices have open requests. -/
theorem request?_of_not_connected {session : Session} (h : session.phase.isConnected = false) :
    session.request? kind = none := by
  rw [request?, exchanges_of_not_connected h]
  cases kind <;> rfl

theorem request?_congr {session after : Session} (h : after.phase = session.phase) :
    after.request? kind = session.request? kind := by
  rw [request?, exchanges_congr h, request?]

theorem concern_of_toBroker? {message : Broker.Message} {msgId : UInt16}
    (h : kind.toBroker? message = some msgId) (wasOpen : Bool) (frame : Bytes) (isOpen : Bool) :
    (Effect.broker (.sending wasOpen message (.ok frame) isOpen)).concern = .request := by
  cases kind <;> cases message <;> try (cases h; done)
  case publish.publish publication =>
    have hqos : publication.qos = 1 := by
      by_contra hnot
      rw [RequestKind.toBroker?, if_neg hnot] at h
      cases h
    simp [Effect.concern, Broker.LinkUse.concern, Broker.Message.connect?,
      Broker.Message.isRequest, hqos, Except.isOk, Except.toBool]
  all_goals rfl

theorem concern_of_toDevice? {message : Sensor.Message} {ask : Ask}
    (h : kind.toDevice? message = some ask) : message.concern = .request := by
  cases kind <;> cases message <;> try (cases h; done)
  case unsubscribe.unsuback => rfl
  all_goals
    next ack =>
      by_cases hcode : ack.returnCode = .accepted
      · exact if_pos hcode
      · rw [RequestKind.toDevice?, if_neg hcode] at h
        cases h

/-- What is about something else is no event. -/
theorem requestEvent?_of_concern {effect : Effect}
    (hrequest : effect.concern ≠ .request) (hfarewell : effect.concern ≠ .farewell) :
    effect.requestEvent? kind input = none := by
  unfold Effect.requestEvent?
  split
  next wasOpen message frame isOpen =>
    cases hmessage : kind.toBroker? message with
    | none => rfl
    | some msgId => exact (hrequest (concern_of_toBroker? hmessage _ _ _)).elim
  next => exact (hfarewell rfl).elim
  next link target message _ =>
    cases hmessage : kind.toDevice? message with
    | none => rfl
    | some ask => exact (hrequest (concern_of_toDevice? hmessage)).elim
  next => rfl

namespace Transition

variable {t mid next : Transition} {concern : Concern}

/-- What is about something else is no event of a request, unless it is a farewell. -/
theorem requestEvents_of_adds (hrequest : concern ≠ .request) (hfarewell : concern ≠ .farewell)
    (h : Adds concern t next) : next.requestEvents kind input = t.requestEvents kind input := by
  obtain ⟨effects, heffects, hconcern⟩ := h
  have hnone : effects.filterMap (·.requestEvent? kind input) = [] := by
    rw [List.filterMap_eq_nil_iff]
    intro effect hin
    refine requestEvent?_of_concern ?_ ?_ <;> rcases hconcern effect hin with heq | heq <;> rw [heq]
    · decide
    · exact hrequest
    · decide
    · exact hfarewell
  rw [requestEvents, heffects, List.filterMap_append, hnone, List.append_nil]
  rfl

/-- A device that is told that it is disconnected has no open request any more. -/
theorem requestEvents_farewell :
    (t.toDevice (.disconnect none)).requestEvents kind input = t.requestEvents kind input ∧
        t.session.link = none ∨
      (t.toDevice (.disconnect none)).requestEvents kind input =
        t.requestEvents kind input ++ [.cancelled] := by
  cases hlink : t.session.link with
  | none => exact .inl ⟨by simp [toDevice, hlink], rfl⟩
  | some link =>
    refine .inr ?_
    simp [toDevice, hlink, requestEvents, emit, Effect.requestEvent?]

theorem requestEvents_tearDown :
    t.tearDown.requestEvents kind input =
      (t.toDevice (.disconnect none)).requestEvents kind input := by
  have hadds : Adds .other (t.toDevice (.disconnect none)) t.tearDown :=
    (((Adds.refl .other _).emit (.inl rfl)).update _).closeBroker
  exact requestEvents_of_adds (by decide) (by decide) hadds

theorem requestEvents_toDevice (hlink : t.session.link.isSome = true) {message : Sensor.Message}
    (hnot : ∀ duration, message ≠ .disconnect duration) :
    (t.toDevice message).requestEvents kind input =
      t.requestEvents kind input ++ ((kind.toDevice? message).map .answered).toList := by
  obtain ⟨link, heffects⟩ := effects_toDevice hlink message
  have hevent : (Effect.device link t.session.address message).requestEvent? kind input =
      (kind.toDevice? message).map .answered := by
    cases message with
    | disconnect duration => exact (hnot duration rfl).elim
    | _ => rfl
  rw [requestEvents, heffects, List.filterMap_append]
  cases hanswer : kind.toDevice? message <;> simp [hevent, hanswer, requestEvents]

/-- A positive answer closes a request. -/
theorem requestEvents_answer (hlink : t.session.link.isSome = true) {message : Sensor.Message}
    {ask : Ask} (h : kind.toDevice? message = some ask) :
    (t.toDevice message).requestEvents kind input =
      t.requestEvents kind input ++ [.answered ask] := by
  rw [requestEvents_toDevice hlink, h]
  · rfl
  · rintro duration rfl
    cases kind <;> cases h

/-- A request that the link takes is open. -/
theorem requestEvents_taken {line : Broker.Line} {message : Broker.Message}
    (h : t.forward line message = (true, next)) :
    next.requestEvents kind input = t.requestEvents kind input ++
      ((kind.toBroker? message).map fun msgId => .asked (kind.ask input msgId)).toList := by
  obtain ⟨frame, isOpen, rfl⟩ := eq_of_forward_taken h
  simp only [requestEvents, emit, update, List.filterMap_append]
  cases hrequest : kind.toBroker? message <;>
    simp [Effect.requestEvent?, hrequest]

/-- What the broker confirms is answered if it is what the session waits for, and is
passed over otherwise. -/
theorem confirm_cases (context : Context) (t : Transition) {exchanges : Exchanges}
    {message : Broker.Message} {msgId : UInt16} (hmessage : kind.ofBroker? message = some msgId) :
    (∃ (ask : Ask) (mid : Transition) (answer : Sensor.Message),
        exchanges.request? kind = some ask ∧ ask.msgId = msgId ∧
          t.brokerConnected context exchanges message = mid.toDevice answer ∧
          mid.effects = t.effects ∧ mid.session.link = t.session.link ∧
          kind.toDevice? answer = some ask) ∨
      (∀ ask, exchanges.request? kind = some ask → ask.msgId ≠ msgId) ∧
        t.brokerConnected context exchanges message = t := by
  cases kind <;> cases message <;> cases hmessage
  all_goals
    unfold brokerConnected
    simp only [confirmPublish, confirmSubscribe, confirmUnsubscribe, Exchanges.request?]
    split
    next hnone =>
      rw [hnone]
      exact .inr ⟨nofun, rfl⟩
    next request hsome =>
      rw [hsome]
      split
      next hid => exact .inr ⟨fun ask hask => Option.some.inj hask ▸ hid, rfl⟩
      next hid =>
        obtain rfl := not_not.mp hid
        exact .inl ⟨_, _, _, rfl, rfl, rfl, rfl, rfl, rfl⟩

end Transition

namespace Life

def requestEvents (life : Life) (kind : RequestKind) (n : Nat) : List RequestEvent :=
  (life.step n).requestEvents kind (life.turn n).input

def requestHistory (life : Life) (kind : RequestKind) : Nat → List RequestEvent
  | 0 => []
  | n + 1 => life.requestHistory kind n ++ life.requestEvents kind n

/-- The broker confirms a request of this kind and message id in a turn. -/
def Confirms (life : Life) (kind : RequestKind) (n : Nat) (msgId : UInt16) : Prop :=
  ∃ message, (life.turn n).input = .broker message ∧ kind.ofBroker? message = some msgId

/-- What a turn does about requests of a kind. -/
inductive Requests (life : Life) (kind : RequestKind) (n : Nat) : Prop where
  | rest (hevents : life.requestEvents kind n = [])
      (hkept : (life.before (n + 1)).request? kind = (life.before n).request? kind)
  | ask {message : Sensor.Message} {ask : Ask} (hheard : life.Hears n message)
      (hmessage : kind.ofDevice? message = some ask)
      (hfree : (life.before n).request? kind = none)
      (hevents : life.requestEvents kind n = [.asked ask])
      (hnext : (life.before (n + 1)).request? kind = some ask)
  | answer {ask : Ask} (hconfirms : life.Confirms kind n ask.msgId)
      (hsome : (life.before n).request? kind = some ask)
      (hevents : life.requestEvents kind n = [.answered ask])
      (hnext : (life.before (n + 1)).request? kind = none)
  | cancel (hevents : life.requestEvents kind n = [.cancelled])
      (hnext : (life.before (n + 1)).request? kind = none)

variable {life : Life} {n : Nat}

theorem request?_opening (life : Life) (n : Nat) :
    (life.opening n).session.request? kind = (life.before n).request? kind :=
  request?_congr (life.phase_opening n)

/-- The broker takes a request of one kind; those of the other kinds are as before. -/
theorem requests_of_taken (own : RequestKind) {exchanges after : Exchanges}
    {message : Sensor.Message} {sent : Broker.Message} {mid : Transition} {ask : Ask}
    (hnext : life.step n = mid.enter (.connected after)) (hheard : life.Hears n message)
    (hmessage : own.ofDevice? message = some ask)
    (hphase : (life.opening n).session.phase = .connected exchanges)
    (htaken : (life.opening n).forward (life.context n).line sent = (true, mid))
    (hfree : exchanges.request? own = none) (hasked : after.request? own = some ask)
    (hothers : ∀ kind, kind ≠ own → after.request? kind = exchanges.request? kind)
    (hsent : ∀ kind : RequestKind,
      (kind.toBroker? sent).map (kind.ask (life.turn n).input) =
        if kind = own then some ask else none) :
    life.Requests kind n := by
  have hevents : life.requestEvents kind n =
      ((if kind = own then some ask else none).map .asked).toList := by
    rw [← hsent, Option.map_map, requestEvents, hnext]
    exact Transition.requestEvents_taken htaken
  have hbefore : (life.before n).request? kind = exchanges.request? kind :=
    request?_of_phase ((life.phase_opening n).symm.trans hphase)
  have hafter : (life.before (n + 1)).request? kind = after.request? kind :=
    request?_of_phase (congrArg (·.session.phase) hnext)
  by_cases hown : kind = own
  · subst hown
    rw [if_pos rfl] at hevents
    exact .ask hheard hmessage (hbefore.trans hfree) hevents (hafter.trans hasked)
  · rw [if_neg hown] at hevents
    exact .rest hevents (hafter.trans ((hothers kind hown).trans hbefore.symm))

/-- The broker confirms a request of one kind; those of the other kinds are as before. -/
theorem requests_of_told (own : RequestKind) {exchanges after : Exchanges}
    {message : Broker.Message} {answer : Sensor.Message} {mid : Transition} {ask : Ask}
    (hnext : life.step n = mid.toDevice answer) (hinput : (life.turn n).input = .broker message)
    (hmessage : own.ofBroker? message = some ask.msgId)
    (hphase : (life.opening n).session.phase = .connected exchanges)
    (hmid : mid.session.phase = .connected after) (hlink : mid.session.link.isSome = true)
    (heffects : mid.effects = [])
    (hsome : exchanges.request? own = some ask) (hanswered : after.request? own = none)
    (hothers : ∀ kind, kind ≠ own → after.request? kind = exchanges.request? kind)
    (htold : ∀ kind : RequestKind, kind.toDevice? answer = if kind = own then some ask else none) :
    life.Requests kind n := by
  have hevents : life.requestEvents kind n =
      ((if kind = own then some ask else none).map .answered).toList := by
    rw [← htold, requestEvents, hnext, Transition.requestEvents_toDevice hlink]
    · rw [Transition.requestEvents, heffects]
      rfl
    · rintro duration rfl
      have hown := htold own
      rw [if_pos rfl] at hown
      cases own <;> cases hown
  have hbefore : (life.before n).request? kind = exchanges.request? kind :=
    request?_of_phase ((life.phase_opening n).symm.trans hphase)
  have hafter : (life.before (n + 1)).request? kind = after.request? kind := by
    refine request?_of_phase ?_
    rw [before_succ, hnext, Transition.session_toDevice, hmid]
  by_cases hown : kind = own
  · subst hown
    rw [if_pos rfl] at hevents
    exact .answer ⟨message, hinput, hmessage⟩ (hbefore.trans hsome) hevents
      (hafter.trans hanswered)
  · rw [if_neg hown] at hevents
    exact .rest hevents (hafter.trans ((hothers kind hown).trans hbefore.symm))

/-- A step about requests asks, answers or leaves the one that is open. -/
theorem requests_of_requesting
    (h : Requesting (life.context n) (life.turn n).input (life.opening n) (life.step n)) :
    life.Requests kind n := by
  have hlink := link_of_isConnected h.connected.1
  cases h with
  | @publish exchanges seen publication link message mid hinput hphase hfree hlevel hqos hid htaken
      hnext =>
    refine requests_of_taken .publish hnext ⟨seen, link, hinput⟩ (if_pos hlevel) hphase htaken
      (congrArg (Option.map _) hfree) rfl (fun _ => exchanges.request?_publish _) ?_
    rintro (_ | _ | _)
    · rw [RequestKind.toBroker?, if_pos hqos, hid, hinput]
      rfl
    · rfl
    · rfl
  | @subscribe exchanges seen request link dup topics name mid hinput hphase hfree htaken hnext =>
    refine requests_of_taken .subscribe hnext ⟨seen, link, hinput⟩ rfl hphase htaken
      (congrArg (Option.map _) hfree) rfl (fun _ => exchanges.request?_subscribe _) ?_
    rintro (_ | _ | _) <;> rfl
  | @unsubscribe exchanges seen request link dup topics name mid hinput hphase hfree htaken hnext =>
    refine requests_of_taken .unsubscribe hnext ⟨seen, link, hinput⟩ rfl hphase htaken
      (congrArg (Option.map _) hfree) rfl (fun _ => exchanges.request?_unsubscribe _) ?_
    rintro (_ | _ | _) <;> rfl
  | @confirmPublish exchanges request hinput hphase hsome hnext =>
    refine requests_of_told .publish hnext hinput rfl hphase rfl hlink rfl
      (congrArg (Option.map _) hsome) rfl (fun _ => exchanges.request?_publish _) ?_
    rintro (_ | _ | _) <;> rfl
  | @confirmSubscribe exchanges request granted flags topicId topics hinput hphase hsome hnext =>
    refine requests_of_told .subscribe hnext hinput rfl hphase rfl hlink rfl
      (congrArg (Option.map _) hsome) rfl (fun _ => exchanges.request?_subscribe _) ?_
    rintro (_ | _ | _) <;> rfl
  | @confirmUnsubscribe exchanges request topics hinput hphase hsome hnext =>
    refine requests_of_told .unsubscribe hnext hinput rfl hphase rfl hlink rfl
      (congrArg (Option.map _) hsome) rfl (fun _ => exchanges.request?_unsubscribe _) ?_
    rintro (_ | _ | _) <;> rfl

/-- Every turn does one of these things about requests of a kind. -/
theorem requests (life : Life) (kind : RequestKind) (n : Nat) : life.Requests kind n := by
  have hrest {concern : Concern} (hrequest : concern ≠ .request) (hfarewell : concern ≠ .farewell)
      (hadds : Transition.Adds concern (life.opening n) (life.step n))
      (hkept : (life.step n).session.request? kind = (life.opening n).session.request? kind) :
      life.Requests kind n :=
    .rest (Transition.requestEvents_of_adds hrequest hfarewell hadds)
      (hkept.trans (request?_opening life n))
  have hnot {session : Session} (hphase : session.phase.isConnected = false) :
      session.request? kind = none := request?_of_not_connected hphase
  -- whoever is told that it is disconnected waits for nothing any more
  have hfarewell {mid : Transition} (hquiet : Transition.Quiet (life.opening n) mid)
      (hevents : life.requestEvents kind n =
        (mid.toDevice (.disconnect none)).requestEvents kind (life.turn n).input)
      (hafter : (life.step n).session.phase.isConnected = false) : life.Requests kind n := by
    have hmid : mid.requestEvents kind (life.turn n).input = [] :=
      Transition.requestEvents_of_adds (by decide) (by decide) hquiet.adds
    rcases mid.requestEvents_farewell with ⟨htold, hlink⟩ | htold
    · have hidle : (life.before n).phase = .idle := by
        by_contra hbusy
        have hsome := life.link_opening n (.inl hbusy)
        rw [← hquiet.link, hlink] at hsome
        cases hsome
      have hbefore : (life.before n).request? kind = none := hnot (by rw [hidle]; rfl)
      exact .rest (hevents.trans (htold.trans hmid)) ((hnot hafter).trans hbefore.symm)
    · rw [htold, hmid] at hevents
      exact .cancel hevents (hnot hafter)
  cases life.deed n with
  | quiet h => exact hrest (by decide) (by decide) h.adds (request?_congr h.phase)
  | tearDown h hnext =>
    refine hfarewell h ?_ (hnext ▸ rfl)
    rw [requestEvents, hnext, Transition.requestEvents_tearDown]
  | refuse hphase hnext =>
    refine hfarewell (.refl _) (by rw [requestEvents, hnext]; rfl) ?_
    rwa [hnext, Transition.refuse, Transition.session_toDevice]
  | accept _ hphase hnext =>
    refine hrest (by decide) (by decide)
      (hnext ▸ ((Transition.Adds.refl .other _).update _).toDevice (.inl rfl)) ?_
    have hbefore : (life.opening n).session.request? kind = none := hnot (by rw [hphase]; rfl)
    rw [hbefore, hnext, Transition.session_toDevice]
    cases kind <;> rfl
  | establish h =>
    refine hrest (by decide) (by decide) h.adds ?_
    rw [hnot h.not_connected.1, hnot h.not_connected.2]
  | deliver h =>
    refine hrest (by decide) (by decide) h.adds ?_
    obtain ⟨hpublish, hsubscribe, hunsubscribe⟩ := h.keeps_requests
    cases kind <;> simp only [request?, Exchanges.request?, hpublish, hsubscribe, hunsubscribe]
  | request h => exact requests_of_requesting h

/-! ### The history -/

@[simp] theorem openRequest_snoc (history : List RequestEvent) (event : RequestEvent) :
    openRequest (history ++ [event]) = openRequest [event] := by
  simp [openRequest]

/-- What is open by the history is what the session waits for. -/
theorem alternating_requestHistory (life : Life) (kind : RequestKind) (n : Nat) :
    Alternating (life.requestHistory kind n) ∧
      openRequest (life.requestHistory kind n) = (life.before n).request? kind := by
  -- the second part is what tells that a request may follow, or which answer
  induction n with
  | zero => exact ⟨.nil, by cases kind <;> rfl⟩
  | succ n ih =>
    obtain ⟨halternating, hopen⟩ := ih
    rw [requestHistory]
    cases life.requests kind n with
    | rest hevents hkept =>
      rw [hevents, List.append_nil, hkept]
      exact ⟨halternating, hopen⟩
    | ask _ _ hfree hevents hnext =>
      rw [hevents, hnext, openRequest_snoc]
      exact ⟨.asked halternating (hopen.trans hfree), rfl⟩
    | answer _ hsome hevents hnext =>
      rw [hevents, hnext, openRequest_snoc]
      exact ⟨.answered halternating (hopen.trans hsome), rfl⟩
    | cancel hevents hnext =>
      rw [hevents, hnext, openRequest_snoc]
      exact ⟨.cancelled halternating, rfl⟩

/-- The broker is asked only for what the device has asked. -/
theorem heard_of_asked {ask : Ask} (hin : .asked ask ∈ life.requestEvents kind n) :
    ∃ message, life.Hears n message ∧ kind.ofDevice? message = some ask := by
  cases life.requests kind n with
  | rest hevents => rw [hevents] at hin; cases hin
  | ask hheard hmessage _ hevents =>
    rw [hevents] at hin
    cases List.mem_singleton.mp hin
    exact ⟨_, hheard, hmessage⟩
  | answer _ _ hevents => rw [hevents] at hin; cases List.mem_singleton.mp hin
  | cancel hevents => rw [hevents] at hin; cases List.mem_singleton.mp hin

/-- The device is answered only as the broker confirms the open request. -/
theorem confirmed_of_answered {ask : Ask} (hin : .answered ask ∈ life.requestEvents kind n) :
    (life.before n).request? kind = some ask ∧ life.Confirms kind n ask.msgId := by
  cases life.requests kind n with
  | rest hevents => rw [hevents] at hin; cases hin
  | ask _ _ _ hevents => rw [hevents] at hin; cases List.mem_singleton.mp hin
  | answer hconfirms hsome hevents =>
    rw [hevents] at hin
    cases List.mem_singleton.mp hin
    exact ⟨hsome, hconfirms⟩
  | cancel hevents => rw [hevents] at hin; cases List.mem_singleton.mp hin

/-- What the broker confirms is answered if it is open, and otherwise changes nothing. -/
theorem requests_of_confirms {msgId : UInt16} (h : life.Confirms kind n msgId) :
    (∃ ask, (life.before n).request? kind = some ask ∧ ask.msgId = msgId ∧
        life.requestEvents kind n = [.answered ask]) ∨
      (∀ ask, (life.before n).request? kind = some ask → ask.msgId ≠ msgId) ∧
        life.step n = life.opening n := by
  obtain ⟨message, hinput, hmessage⟩ := h
  have hstep : life.step n = (life.opening n).broker (life.context n) message :=
    life.step_of_broker hinput
  have hnot (code : UInt8) : message ≠ .connack code := by
    rintro rfl
    cases kind <;> cases hmessage
  cases hphase : (life.before n).phase with
  | connected exchanges =>
    rw [request?_of_phase hphase]
    rw [Transition.broker_eq ((life.phase_opening n).trans hphase) hnot] at hstep
    rcases Transition.confirm_cases (life.context n) (life.opening n) hmessage with
      ⟨ask, mid, answer, hsome, hid, htold, heffects, hmid, hanswer⟩ | ⟨hother, hnothing⟩
    · have hconnected : (life.opening n).session.phase.isConnected = true := by
        rw [phase_opening, hphase]
        rfl
      refine .inl ⟨ask, hsome, hid, ?_⟩
      rw [requestEvents, hstep.trans htold,
        Transition.requestEvents_answer (hmid ▸ link_of_isConnected hconnected) hanswer,
        Transition.requestEvents, heffects]
      rfl
    · exact .inr ⟨hother, hstep.trans hnothing⟩
  | _ =>
    rw [Transition.broker_eq_self (by rw [phase_opening, hphase]; rfl) hnot] at hstep
    refine .inr ⟨fun ask hask => ?_, hstep⟩
    rw [request?_of_not_connected (by rw [hphase]; rfl)] at hask
    cases hask

/-- Of the requests of a kind that the broker took and the answers to the device each
follows the other, beginning with a request; the device learns when an open request
is cancelled. What is open is what the session waits for, so there is never more
than one. A request was told by the device. The device gets an answer, under what
it used itself, exactly when the broker confirms the open request, and anything
else that the broker confirms is nothing but a sign of life. -/
theorem requests_answered (life : Life) (kind : RequestKind) (n : Nat) :
    Alternating (life.requestHistory kind n) ∧
      openRequest (life.requestHistory kind n) = (life.before n).request? kind ∧
      (∀ ask, .asked ask ∈ life.requestEvents kind n →
        ∃ message, life.Hears n message ∧ kind.ofDevice? message = some ask) ∧
      (∀ ask, .answered ask ∈ life.requestEvents kind n ↔
        openRequest (life.requestHistory kind n) = some ask ∧ life.Confirms kind n ask.msgId) ∧
      ∀ msgId, life.Confirms kind n msgId →
        (∀ ask, openRequest (life.requestHistory kind n) = some ask → ask.msgId ≠ msgId) →
          life.step n =
            ⟨{ life.before n with deadline := (life.context n).deadline }, []⟩ := by
  obtain ⟨halternating, hopen⟩ := life.alternating_requestHistory kind n
  rw [hopen]
  refine ⟨halternating, rfl, fun ask => heard_of_asked,
    fun ask => ⟨confirmed_of_answered, ?_⟩, ?_⟩
  · rintro ⟨hsome, hconfirms⟩
    rcases requests_of_confirms hconfirms with ⟨other, hother, -, hevents⟩ | ⟨hnot, -⟩
    · obtain rfl : other = ask := Option.some.inj (hother.symm.trans hsome)
      exact hevents ▸ List.mem_singleton_self _
    · exact (hnot ask hsome rfl).elim
  · intro msgId hconfirms hnot
    rcases requests_of_confirms hconfirms with ⟨ask, hsome, hid, -⟩ | ⟨-, hstep⟩
    · exact (hnot ask hsome hid).elim
    · obtain ⟨message, hinput, -⟩ := hconfirms
      rw [hstep, opening, hear, hinput]
      rfl

/-- A device that publishes twice under one short name, the second time before the
broker has confirmed the first. -/
def hasty : Life :=
  ofTurns {} meter 0
    [⟨0, {}, .sensor meter (.connect
        { flags := {}, protocolId := 1, duration := 60, clientId := "d" }) "udp:20000"⟩,
      ⟨1, {}, .broker (.connack Broker.Message.accepted)⟩,
      ⟨2, {}, .sensor meter (.publish
        ⟨{ qos := .atLeastOnce, topicIdType := .short }, 0x6162, 5, [21]⟩) "udp:20000"⟩,
      ⟨3, {}, .sensor meter (.publish
        ⟨{ qos := .atLeastOnce, topicIdType := .short }, 0x6163, 6, [22]⟩) "udp:20000"⟩,
      ⟨4, {}, .broker (.puback 6)⟩,
      ⟨5, {}, .broker (.puback 5)⟩]

/-- Only the first request counts, and only what confirms it is answered. -/
theorem requests_answered_hasty :
    hasty.requestHistory .publish 5 = [.asked ⟨5, some 0x6162⟩] ∧
      (hasty.step 4).effects = [] ∧
      .answered ⟨5, some 0x6162⟩ ∈ hasty.requestEvents .publish 5 := by
  have hhistory : hasty.requestHistory .publish 5 = [.asked ⟨5, some 0x6162⟩] := rfl
  refine ⟨hhistory, ?_, ?_⟩
  · obtain ⟨-, -, -, -, hnothing⟩ := requests_answered hasty .publish 4
    rw [hnothing 6 ⟨_, rfl, rfl⟩ fun ask hopen => by cases hopen; decide]
  · obtain ⟨-, -, -, hanswered, -⟩ := requests_answered hasty .publish 5
    exact (hanswered _).mpr ⟨by rw [hhistory]; rfl, _, rfl, rfl⟩

end Life

end SensorGateway.Session
