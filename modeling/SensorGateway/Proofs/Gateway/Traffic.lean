import SensorGateway.Proofs.Gateway.Notices
import SensorGateway.Proofs.Gateway.UplinkTurns
import SensorGateway.Proofs.Gateway.World

/-!
On which connection the broker accepts a device. A message of the broker is put on
the queue with the address of its session, and nothing tells on which connection it
came. `Traffic` is a gateway at work that has this noted on every envelope: whoever
reads from a connection puts what comes on it on the queue as long as it is open,
and the gateway takes one envelope after the other and handles it.

A session that waits for the broker takes any acceptance for its own.
`connects_when_accepted` says how far this goes: what was put on the queue after the
broker was asked came on the connection on which it was asked. What was there before
may have come on a connection that is closed by now, and counts as well.
-/

namespace SensorGateway

open Broker (AreIdle Calls EndAsked)

/-! ### What a gateway puts on the queue itself -/

def Envelope.isOfBroker (envelope : Envelope) : Bool :=
  match envelope.payload with
  | .broker _ => true
  | .sensor .. | .signal _ => false

/-- A queue on which some envelopes were put, of which none is a message of the broker. -/
def Queue.Gains (before after : Queue) : Prop :=
  ∃ puts : List Envelope, after = puts.foldl Queue.put before ∧
    ∀ envelope ∈ puts, envelope.isOfBroker = false

theorem Queue.eq_of_parts {queue other : Queue} (hfront : queue.front = other.front)
    (hback : queue.back = other.back) : queue = other := by
  cases queue
  cases other
  cases hfront
  cases hback
  rfl

/-- No message of the broker comes from the gateway. -/
theorem Gateway.gains_dispatch (gateway : Gateway) (circumstances : Circumstances)
    (envelope : Envelope) :
    gateway.queue.Gains (gateway.dispatch circumstances envelope).progress.gateway.queue := by
  let handling : Handling := ⟨circumstances, envelope⟩
  refine ⟨gateway.puts handling, (advances_dispatch gateway handling).queue, fun put hin => ?_⟩
  rcases mem_puts hin with hreaddressed | hlook
  · obtain ⟨address, message, link, -, -, -, rfl⟩ := Envelope.readdressed?_eq_some.mp hreaddressed
    rfl
  · rw [hlook]
    rfl

/-! ### Connections -/

namespace Progress

variable {progress : Progress} {address other : Address}

def calls (address : Address) (progress : Progress) : Calls :=
  Calls.after {} (progress.linkUses address)

theorem calls_congr (progress : Progress) (h : address.same other = true) :
    progress.calls address = progress.calls other := by
  rw [calls, linkUses_congr h, calls]

/-- What is done next goes on with the connections that there are. -/
theorem calls_after (next : Progress) :
    (next.after progress.events).calls address =
      (progress.calls address).after (next.linkUses address) := by
  simp only [calls, linkUses_eq, after, List.filterMap_append]
  exact Calls.after_append _ _ _

end Progress

/-- An envelope, and how it got on the queue. -/
structure Letter extends Parcel where
  /-- The connection on which it came, if it is a message of the broker. -/
  connection : Nat
  /-- How many envelopes had been handled when it was put there. -/
  turn : Nat

namespace Letter

/-- Whether a letter may be put on the queue while the links get from one state to another.
A message of the broker comes on the connection that is open or on one that is begun
in between, and everything else may come at any time. -/
def MayArrive (before after : Progress) (letter : Letter) : Prop :=
  ∀ owner message, letter.envelope = ⟨some owner, .broker message⟩ →
    before.linkOpen owner = true ∧ letter.connection = (before.calls owner).opened ∨
      (before.calls owner).opened < letter.connection ∧
        letter.connection ≤ (after.calls owner).opened

def IsFor (address : Address) (letter : Letter) : Prop :=
  ∃ owner message, letter.envelope = ⟨some owner, .broker message⟩ ∧ owner.same address = true

/-- Whether a letter is the word of the broker to an address that it accepts the
connection. -/
def Accepts (address : Address) (letter : Letter) : Prop :=
  ∃ owner, letter.envelope = ⟨some owner, .broker (.connack Broker.Message.accepted)⟩ ∧
    owner.same address = true

/-- The word of the broker that it accepts is a message for the device. -/
theorem Accepts.isFor {address : Address} {letter : Letter} (h : letter.Accepts address) :
    letter.IsFor address := by
  obtain ⟨owner, henvelope, hsame⟩ := h
  exact ⟨owner, _, henvelope, hsame⟩

/-- Only a message of the broker needs a connection. -/
theorem mayArrive_of_other {before after : Progress} {letter : Letter}
    (h : letter.envelope.isOfBroker = false) : letter.MayArrive before after := by
  intro owner message henvelope
  rw [henvelope] at h
  cases h

/-- A message of the broker may come on the connection that is open. -/
theorem mayArrive_of_open {progress : Progress} {owner : Address} {message : Broker.Message}
    {letter : Letter} (henvelope : letter.envelope = ⟨some owner, .broker message⟩)
    (hopen : progress.linkOpen owner = true)
    (hconnection : letter.connection = (progress.calls owner).opened) :
    letter.MayArrive progress progress := by
  intro other message' henvelope'
  cases henvelope.symm.trans henvelope'
  exact .inl ⟨hopen, hconnection⟩

variable {before after : Progress} {address : Address} {letter : Letter}

/-- A message of the broker comes on a connection that there is by then. -/
theorem MayArrive.le_opened (h : letter.MayArrive before after) (hfor : letter.IsFor address)
    (hgrows : (before.calls address).opened ≤ (after.calls address).opened) :
    letter.connection ≤ (after.calls address).opened := by
  obtain ⟨owner, message, henvelope, hsame⟩ := hfor
  rw [← before.calls_congr hsame, ← after.calls_congr hsame] at hgrows
  rw [← after.calls_congr hsame]
  rcases h owner message henvelope with ⟨-, heq⟩ | ⟨-, hle⟩
  · exact heq ▸ hgrows
  · exact hle

/-- Unless a connection is begun, a message of the broker comes on the latest one. -/
theorem MayArrive.eq_opened (h : letter.MayArrive before after) (hfor : letter.IsFor address)
    (hstays : (after.calls address).opened = (before.calls address).opened) :
    letter.connection = (before.calls address).opened := by
  obtain ⟨owner, message, henvelope, hsame⟩ := hfor
  rw [← before.calls_congr hsame, ← after.calls_congr hsame] at hstays
  rw [← before.calls_congr hsame]
  rcases h owner message henvelope with ⟨-, heq⟩ | ⟨hlt, hle⟩
  · exact heq
  · exact absurd (hstays ▸ Nat.lt_of_lt_of_le hlt hle) (Nat.lt_irrefl _)

end Letter

/-- A gateway at work, what has happened on its links, and what is on its queue. -/
structure Traffic where
  progress : Progress
  /-- What is on the queue, in its order. -/
  waiting : List Letter
  /-- What was taken from the queue and is being handled. -/
  inHand : Option Letter
  /-- How many envelopes were handled. -/
  clock : Nat
  /-- In which turn the broker was last asked to connect the device of an address. -/
  askedAt : Address → Nat

namespace Traffic

def queueUp (waiting : List Letter) (letter : Letter) : List Letter :=
  if letter.envelope.isSignal then letter :: waiting else waiting ++ [letter]

def put (traffic : Traffic) (letter : Letter) : Traffic :=
  { traffic with
    progress := traffic.progress.update (·.put letter.envelope)
    waiting := queueUp traffic.waiting letter }

def outcome (traffic : Traffic) (circumstances : Circumstances) (letter : Letter) :
    Gateway.Outcome :=
  traffic.progress.gateway.dispatch circumstances letter.envelope

def next (traffic : Traffic) (circumstances : Circumstances) (letter : Letter) : Progress :=
  (traffic.outcome circumstances letter).progress.after traffic.progress.events

/-- What was put on the queue while an envelope was handled: what the gateway put there
itself, and what arrived in between. -/
structure During (traffic : Traffic) (circumstances : Circumstances) (letter : Letter)
    (puts : List Letter) : Prop where
  own : (traffic.next circumstances letter).gateway.queue =
    ((puts.filter (·.origin = .gateway)).map (·.envelope)).foldl Queue.put
      traffic.progress.gateway.queue
  turn : ∀ late ∈ puts, late.turn = traffic.clock
  arrive : ∀ late ∈ puts, late.MayArrive traffic.progress (traffic.next circumstances letter)

def handled (traffic : Traffic) (circumstances : Circumstances) (letter : Letter)
    (puts : List Letter) : Traffic where
  progress := (traffic.next circumstances letter).update fun gateway =>
    { gateway with
      queue := (puts.map (·.envelope)).foldl Queue.put traffic.progress.gateway.queue }
  waiting := puts.foldl queueUp traffic.waiting
  inHand := none
  clock := traffic.clock + 1
  askedAt address :=
    if ((traffic.outcome circumstances letter).progress.linkUses address).any (·.asks) then
      traffic.clock
    else traffic.askedAt address

inductive Step : Traffic → Traffic → Prop where
  | arrive {traffic : Traffic} (letter : Letter) (hturn : letter.turn = traffic.clock)
      (harrive : letter.MayArrive traffic.progress traffic.progress) :
      Step traffic (traffic.put letter)
  | take {traffic : Traffic} {letter : Letter} {queue : Queue} {rest : List Letter}
      (hidle : traffic.inHand = none)
      (htake : traffic.progress.gateway.queue.take? = some (letter.envelope, queue))
      (hfirst : traffic.waiting = letter :: rest) :
      Step traffic
        { traffic with
          progress := traffic.progress.update fun gateway => { gateway with queue }
          waiting := rest
          inHand := some letter }
  | handle {traffic : Traffic} {letter : Letter} (circumstances : Circumstances)
      (puts : List Letter) (hhand : traffic.inHand = some letter)
      (hok : (traffic.outcome circumstances letter).result = .ok .continue)
      (hduring : traffic.During circumstances letter puts) :
      Step traffic (traffic.handled circumstances letter puts)

def begin (progress : Progress) : Traffic where
  progress := progress
  waiting := []
  inHand := none
  clock := 0
  askedAt _ := 0

/-- Whatever may happen after the uplink was brought up. -/
inductive Reachable (config : Config) : Traffic → Prop where
  | begin {gateway : Gateway} (circumstances : Circumstances)
      (hcreate : Gateway.create config = .ok gateway)
      (hok : (gateway.bootstrap circumstances).2 = .ok ()) :
      Reachable config (begin (gateway.bootstrap circumstances).1)
  | step {traffic traffic' : Traffic} (hreach : Reachable config traffic)
      (hstep : Step traffic traffic') : Reachable config traffic'

variable {config : Config} {traffic traffic' : Traffic} {letter : Letter} {address : Address}

/-! ### The queue and the notes on it -/

/-- The notes are on the envelopes that are on the queue. -/
def Synced (traffic : Traffic) : Prop :=
  traffic.waiting.map (·.envelope) = traffic.progress.gateway.queue.toList

/-- Letters queue up as their envelopes do. -/
theorem map_toParcel_queueUp (waiting : List Letter) (letter : Letter) :
    (queueUp waiting letter).map (·.toParcel) =
      World.queueUp (waiting.map (·.toParcel)) letter.toParcel := by
  unfold queueUp World.queueUp
  split
  · rfl
  · exact List.map_append

theorem map_toParcel_foldl (puts waiting : List Letter) :
    (puts.foldl queueUp waiting).map (·.toParcel) =
      (puts.map (·.toParcel)).foldl World.queueUp (waiting.map (·.toParcel)) := by
  induction puts generalizing waiting with
  | nil => rfl
  | cons letter puts ih => rw [List.foldl_cons, ih, map_toParcel_queueUp]; rfl

/-- Letters queue up as their envelopes do. -/
theorem map_envelope_foldl (puts : List Letter) {waiting : List Letter} {queue : Queue}
    (h : waiting.map (·.envelope) = queue.toList) :
    (puts.foldl queueUp waiting).map (·.envelope) =
      ((puts.map (·.envelope)).foldl Queue.put queue).toList := by
  have hsplit (letters : List Letter) : letters.map (·.envelope) =
      (letters.map (·.toParcel)).map (·.envelope) := (List.map_map ..).symm
  rw [hsplit, map_toParcel_foldl, World.map_foldl_queueUp _ ((hsplit waiting).symm.trans h),
    hsplit puts]

theorem mem_queueUp {waiting : List Letter} {late : Letter} :
    late ∈ queueUp waiting letter ↔ late = letter ∨ late ∈ waiting := by
  unfold queueUp
  split
  · exact List.mem_cons
  · rw [List.mem_append, List.mem_singleton, or_comm]

theorem mem_foldl_queueUp {puts waiting : List Letter} {late : Letter} :
    late ∈ puts.foldl queueUp waiting ↔ late ∈ puts ∨ late ∈ waiting := by
  induction puts generalizing waiting with
  | nil => simp
  | cons letter puts ih =>
    rw [List.foldl_cons, ih, mem_queueUp, List.mem_cons]
    exact or_left_comm.trans or_assoc.symm

/-- A step keeps the notes on the envelopes that are on the queue. -/
theorem synced_step (hstep : Step traffic traffic') (h : traffic.Synced) : traffic'.Synced := by
  cases hstep with
  | arrive letter => exact map_envelope_foldl [letter] h
  | take hidle htake hfirst =>
    unfold Synced at h
    rw [hfirst, List.map_cons, Queue.toList_of_take? htake] at h
    exact (List.cons.inj h).2
  | handle circumstances puts hhand hok hduring => exact map_envelope_foldl puts h

theorem reachable_synced (hreach : Reachable config traffic) : traffic.Synced := by
  induction hreach with
  | begin circumstances hcreate hok =>
    simp only [Synced, begin, World.queue_bootstrap, World.queue_create hcreate]
    rfl
  | step hreach hstep ih => exact synced_step hstep ih

/-- Whatever is on the queue can be taken. -/
theorem exists_take {envelope : Envelope} {queue : Queue} (h : traffic.Synced)
    (hidle : traffic.inHand = none)
    (htake : traffic.progress.gateway.queue.take? = some (envelope, queue)) :
    ∃ letter traffic', Step traffic traffic' ∧ traffic'.progress.gateway.queue = queue ∧
      traffic'.inHand = some letter ∧ letter.envelope = envelope := by
  unfold Synced at h
  rw [Queue.toList_of_take? htake] at h
  obtain ⟨letter, rest, hfirst, hletter, -⟩ := List.map_eq_cons_iff.mp h
  exact ⟨letter, _, .take hidle (hletter ▸ htake) hfirst, rfl, rfl, hletter⟩

/-- Whatever the gateway goes on after can be handled. -/
theorem exists_handle {circumstances : Circumstances} (hhand : traffic.inHand = some letter)
    (hok : (traffic.outcome circumstances letter).result = .ok .continue) :
    ∃ traffic', Step traffic traffic' ∧
      traffic'.progress = traffic.next circumstances letter := by
  obtain ⟨envelopes, hqueue, hforeign⟩ := Gateway.gains_dispatch traffic.progress.gateway
    circumstances letter.envelope
  let note (envelope : Envelope) : Letter := ⟨⟨envelope, .gateway⟩, 0, traffic.clock⟩
  have hown : (envelopes.map note).filter (·.origin = .gateway) = envelopes.map note := by
    simp [List.filter_eq_self, note]
  have hmap : (envelopes.map note).map (·.envelope) = envelopes := by
    simp [Function.comp_def, note]
  refine ⟨_, .handle circumstances (envelopes.map note) hhand hok ⟨?_, ?_, ?_⟩, ?_⟩
  · rw [hown, hmap]
    exact hqueue
  · intro late hlate
    obtain ⟨envelope, -, rfl⟩ := List.mem_map.mp hlate
    rfl
  · intro late hlate owner message henvelope
    obtain ⟨envelope, hin, rfl⟩ := List.mem_map.mp hlate
    obtain rfl : envelope = ⟨some owner, .broker message⟩ := henvelope
    cases hforeign _ hin
  · simp only [handled]
    rw [hmap, ← hqueue]
    rfl

/-! ### On which connection a session waits -/

def Holds (traffic : Traffic) (letter : Letter) : Prop :=
  letter ∈ traffic.waiting ∨ traffic.inHand = some letter

/-- How the letters of an address and its connections belong together. -/
structure InLine (traffic : Traffic) (address : Address) : Prop where
  /-- The broker was asked on the latest connection if the session waits for it. -/
  asked : traffic.progress.gateway.awaitsAt address .connack = true →
    (traffic.progress.calls address).asked = (traffic.progress.calls address).opened
  known : ∀ letter, traffic.Holds letter → letter.IsFor address →
    letter.connection ≤ (traffic.progress.calls address).opened
  /-- What was put on the queue since then came on this connection. -/
  current : traffic.progress.gateway.awaitsAt address .connack = true →
    ∀ letter, traffic.Holds letter → letter.IsFor address →
      traffic.askedAt address < letter.turn →
      letter.connection = (traffic.progress.calls address).opened

structure Sound (config : Config) (traffic : Traffic) : Prop where
  trace : ∃ handled, Gateway.Trace config handled traffic.progress
  turns : ∀ letter, traffic.Holds letter → letter.turn ≤ traffic.clock
  lines : ∀ address, address.same config.gatewayAddress = false → traffic.InLine address

/-- A letter that comes in is the only one that was not there before. -/
theorem holds_put {late : Letter} (h : (traffic.put letter).Holds late) :
    late = letter ∨ traffic.Holds late := by
  rcases h with hin | hhand
  · exact (mem_queueUp.mp hin).imp_right .inl
  · exact .inr (.inr hhand)

theorem holds_handled {circumstances : Circumstances} {puts : List Letter} {late : Letter}
    (h : (traffic.handled circumstances letter puts).Holds late) :
    late ∈ puts ∨ traffic.Holds late := by
  rcases h with hin | hhand
  · exact (mem_foldl_queueUp.mp hin).imp_right .inl
  · cases hhand

/-- A letter that arrives comes on the connection that is open. -/
theorem InLine.put (h : traffic.InLine address)
    (harrive : letter.MayArrive traffic.progress traffic.progress) :
    (traffic.put letter).InLine address := by
  refine ⟨h.asked, fun late hin hfor => ?_, fun hawaits late hin hfor hlate => ?_⟩
  · rcases holds_put hin with rfl | hin
    · exact harrive.le_opened hfor (Nat.le_refl _)
    · exact h.known late hin hfor
  · rcases holds_put hin with rfl | hin
    · exact harrive.eq_opened hfor rfl
    · exact h.current hawaits late hin hfor hlate

/-- An envelope that is handled leaves a session waiting for which the broker was asked
last, or one that waits on the connection on which it waited. -/
theorem dials_next (htidy : traffic.progress.gateway.Tidy config)
    (hforeign : address.same config.gatewayAddress = false) {circumstances : Circumstances}
    (hawaits : (traffic.next circumstances letter).gateway.awaitsAt address .connack = true) :
    let uses := (traffic.outcome circumstances letter).progress.linkUses address
    EndAsked uses ∨
      traffic.progress.gateway.awaitsAt address .connack = true ∧ AreIdle uses :=
  (Gateway.notice_dispatch htidy hforeign ⟨circumstances, letter.envelope⟩).dials hawaits

/-- The letters of an address stay in line as one of them is handled while others come in. -/
theorem InLine.handled (h : traffic.InLine address) {circumstances : Circumstances}
    {puts : List Letter} (hturns : ∀ late, traffic.Holds late → late.turn ≤ traffic.clock)
    (htidy : traffic.progress.gateway.Tidy config)
    (hforeign : address.same config.gatewayAddress = false)
    (hduring : traffic.During circumstances letter puts) :
    (traffic.handled circumstances letter puts).InLine address := by
  let uses := (traffic.outcome circumstances letter).progress.linkUses address
  let calls := traffic.progress.calls address
  have hcalls : (traffic.next circumstances letter).calls address = calls.after uses :=
    Progress.calls_after _
  have hgrows : calls.opened ≤ ((traffic.next circumstances letter).calls address).opened :=
    hcalls ▸ Calls.opened_le_after calls uses
  refine ⟨fun hawaits => ?_, fun late hin hfor => ?_, fun hawaits late hin hfor hlate => ?_⟩
  · change ((traffic.next circumstances letter).calls address).asked =
      ((traffic.next circumstances letter).calls address).opened
    rw [hcalls]
    rcases dials_next htidy hforeign hawaits with hasked | ⟨hbefore, hidle⟩
    · exact calls.asked_after hasked
    · rw [calls.after_idle hidle]
      exact h.asked hbefore
  · rcases holds_handled hin with hin | hin
    · exact (hduring.arrive late hin).le_opened hfor hgrows
    · exact Nat.le_trans (h.known late hin hfor) hgrows
  · rcases dials_next htidy hforeign hawaits with hasked | ⟨hbefore, hidle⟩
    -- nothing was put on the queue later than this
    · have hnow : (traffic.handled circumstances letter puts).askedAt address =
          traffic.clock := if_pos hasked.any_asks
      rw [hnow] at hlate
      rcases holds_handled hin with hin | hin
      · exact absurd (hduring.turn late hin) (Nat.ne_of_gt hlate)
      · exact absurd (hturns late hin) (Nat.not_le_of_gt hlate)
    · have hsame : (traffic.handled circumstances letter puts).askedAt address =
          traffic.askedAt address := if_neg (by rw [hidle.any_asks]; exact Bool.false_ne_true)
      have hstays : ((traffic.next circumstances letter).calls address).opened =
          calls.opened := by rw [hcalls, calls.after_idle hidle]
      rw [hsame] at hlate
      refine Eq.trans ?_ hstays.symm
      rcases holds_handled hin with hin | hin
      · exact (hduring.arrive late hin).eq_opened hfor hstays
      · exact h.current hbefore late hin hfor hlate

/-- A gateway that goes on was not told to stop. -/
theorem goes_of_continue {circumstances : Circumstances}
    (hok : (traffic.outcome circumstances letter).result = .ok .continue) :
    (Gateway.Handling.mk circumstances letter.envelope).endsAll = false := by
  cases hends : (Gateway.Handling.mk circumstances letter.envelope).endsAll with
  | false => rfl
  | true =>
    have hdown : letter.envelope = ⟨none, .signal .shutDown⟩ := eq_of_beq hends
    unfold outcome at hok
    rw [hdown] at hok
    cases hok

/-- Every step keeps traffic sound. -/
theorem sound_step (hstep : Step traffic traffic') (h : traffic.Sound config) :
    traffic'.Sound config := by
  obtain ⟨past, htrace⟩ := h.trace
  cases hstep with
  | arrive letter hturn harrive =>
    refine ⟨⟨past, htrace.queue _⟩, fun late hin => ?_, fun address hforeign =>
      (h.lines address hforeign).put harrive⟩
    rcases holds_put hin with rfl | hin
    · exact Nat.le_of_eq hturn
    · exact h.turns late hin
  | @take letter queue rest hidle htake hfirst =>
    have hholds (late : Letter) (hin : late ∈ rest ∨ some letter = some late) :
        traffic.Holds late := by
      left
      rw [hfirst]
      rcases hin with hin | hhand
      · exact List.mem_cons_of_mem letter hin
      · cases hhand
        exact List.mem_cons_self
    refine ⟨⟨past, htrace.queue _⟩, fun late hin => h.turns late (hholds late hin),
      fun address hforeign => ?_⟩
    have hline := h.lines address hforeign
    exact ⟨hline.asked, fun late hin => hline.known late (hholds late hin),
      fun hawaits late hin => hline.current hawaits late (hholds late hin)⟩
  | @handle letter circumstances puts hhand hok hduring =>
    have hnext := htrace.handle ⟨circumstances, letter.envelope⟩ (goes_of_continue hok)
    refine ⟨⟨_, hnext.queue _⟩, fun late hin => ?_, fun address hforeign =>
      (h.lines address hforeign).handled h.turns htrace.tidy hforeign hduring⟩
    rcases holds_handled hin with hin | hin
    · exact hduring.turn late hin ▸ Nat.le_succ _
    · exact Nat.le_succ_of_le (h.turns late hin)

theorem reachable_sound (hreach : Reachable config traffic) : traffic.Sound config := by
  induction hreach with
  | @begin gateway circumstances hcreate hok =>
    have htrace : Gateway.Trace config [] (gateway.bootstrap circumstances).1 :=
      (Gateway.Trace.create hcreate).bootstrap circumstances
    have hnone (letter : Letter) : ¬ (begin (gateway.bootstrap circumstances).1).Holds letter := by
      rintro (hin | hhand)
      · cases hin
      · cases hhand
    refine ⟨⟨[], htrace⟩, fun letter hin => (hnone letter hin).elim, fun address hforeign => ?_⟩
    have hsession : (gateway.bootstrap circumstances).1.gateway.session? address = none :=
      congrArg Holding.session (htrace.holding hforeign)
    refine ⟨fun hawaits => ?_, fun letter hin => (hnone letter hin).elim,
      fun _ letter hin => (hnone letter hin).elim⟩
    simp only [begin, Gateway.awaitsAt] at hawaits
    rw [hsession] at hawaits
    cases hawaits
  | step hreach hstep ih => exact sound_step hstep ih

def Connects (traffic : Traffic) (circumstances : Circumstances) (letter : Letter)
    (address : Address) : Prop :=
  traffic.progress.gateway.isConnectedAt address = false ∧
    (traffic.outcome circumstances letter).progress.gateway.isConnectedAt address = true

def Answers (traffic : Traffic) (circumstances : Circumstances) (letter : Letter)
    (address : Address) : Prop :=
  traffic.progress.gateway.isConnectedAt address = false ∧
    Notice.Tells ((traffic.outcome circumstances letter).progress.dealings address)

/-- A device becomes connected, and is told so, exactly if it waits for the broker and the
broker accepts. This came on the connection on which the broker was asked last, unless it
was put on the queue no later than in the turn in which the broker was asked. -/
theorem connects_when_accepted (hreach : Reachable config traffic)
    (hhand : traffic.inHand = some letter)
    (hforeign : traffic.progress.gateway.isOwn address = false) (circumstances : Circumstances) :
    (traffic.Connects circumstances letter address ↔
      traffic.progress.gateway.awaitsAt address .connack = true ∧ letter.Accepts address) ∧
    (traffic.Answers circumstances letter address ↔
      traffic.Connects circumstances letter address) ∧
    (traffic.Connects circumstances letter address →
      let calls := traffic.progress.calls address
      calls.asked = calls.opened ∧ letter.connection ≤ calls.asked ∧
        (letter.connection = calls.asked ∨ letter.turn ≤ traffic.askedAt address)) := by
  have hsound := reachable_sound hreach
  obtain ⟨past, htrace⟩ := hsound.trace
  have hapart : address.same config.gatewayAddress = false := by
    rwa [Gateway.isOwn, htrace.tidy.config] at hforeign
  have hnotice := Gateway.notice_dispatch htrace.tidy hapart ⟨circumstances, letter.envelope⟩
  have haccepts : Notice.Accepts
      (Gateway.Handling.turnFor? address ⟨circumstances, letter.envelope⟩)
      (traffic.progress.gateway.session? address) ↔
        traffic.progress.gateway.awaitsAt address .connack = true ∧ letter.Accepts address :=
    and_congr_right fun _ => Gateway.Handling.turnFor?_broker
  have hiff (hbefore : traffic.progress.gateway.isConnectedAt address = false) :=
    hnotice.connects_iff hbefore (htrace.reached hforeign)
  have hconnects : traffic.Connects circumstances letter address ↔
      traffic.progress.gateway.awaitsAt address .connack = true ∧ letter.Accepts address := by
    refine ⟨fun h => haccepts.mp ((hiff h.1).1.mp h.2), fun h => ?_⟩
    have hbefore := Gateway.isConnectedAt_of_awaits h.1
    exact ⟨hbefore, (hiff hbefore).1.mpr (haccepts.mpr h)⟩
  refine ⟨hconnects, and_congr_right fun hbefore => (hiff hbefore).2.trans (hiff hbefore).1.symm,
    fun h => ?_⟩
  obtain ⟨hawaits, haccepted⟩ := hconnects.mp h
  have hline := hsound.lines address hapart
  have hasked := hline.asked hawaits
  refine ⟨hasked, hasked ▸ hline.known letter (.inr hhand) haccepted.isFor, ?_⟩
  rcases Nat.lt_or_ge (traffic.askedAt address) letter.turn with hlate | hearly
  · exact .inl (hasked ▸ hline.current hawaits letter (.inr hhand) haccepted.isFor hlate)
  · exact .inr hearly

def askToConnect (device : Address) (turn : Nat) : Letter :=
  ⟨⟨⟨some device, .sensor (.connect
    { flags := {}, protocolId := 1, duration := 60, clientId := "d" }) "udp:20000"⟩, .reader⟩,
    0, turn⟩

def accept (device : Address) (connection turn : Nat) : Letter :=
  ⟨⟨⟨some device, .broker (.connack Broker.Message.accepted)⟩, .reader⟩, connection, turn⟩

/-- The broker answers on the connection on which it was asked. -/
theorem connects_when_accepted_promptly :
    ∃ traffic, Reachable {} traffic ∧ ∃ device : Address, ∃ letter,
      traffic.inHand = some letter ∧ traffic.Connects ⟨0, {}⟩ letter device ∧
        letter.connection = (traffic.progress.calls device).asked := by
  let device : Address := .plain ⟨.v4 10 0 0 7, 1234, 0⟩
  have hbegun : Reachable {} _ := .begin ⟨0, {}⟩ rfl rfl
  have hwished := hbegun.step (.arrive (askToConnect device 0) rfl
    (Letter.mayArrive_of_other rfl))
  have htaken := hwished.step (.take rfl rfl rfl)
  have hasked := htaken.step (.handle ⟨0, {}⟩ [] rfl rfl ⟨rfl, by simp, by simp⟩)
  have hanswered := hasked.step (.arrive (accept device 1 1) rfl
    (Letter.mayArrive_of_open rfl (by decide +kernel) (by decide +kernel)))
  have hreach := hanswered.step (.take rfl rfl rfl)
  have hconnects := @connects_when_accepted {} _ _ device hreach rfl rfl ⟨0, {}⟩
  have hbecomes := hconnects.1.mpr ⟨rfl, device, rfl, rfl⟩
  exact ⟨_, hreach, device, _, rfl, hbecomes,
    (hconnects.2.2 hbecomes).2.2.resolve_right (by decide)⟩

/-- It counts just as well on a connection that is closed. The device asks again before the
answer is handled: the connection on which the broker has accepted it is closed, the broker
is asked on another one, and the answer from before connects the device. -/
theorem not_only_on_current :
    ¬ ∀ (config : Config) (traffic : Traffic) (letter : Letter) (address : Address)
      (circumstances : Circumstances), Reachable config traffic →
      traffic.inHand = some letter → traffic.progress.gateway.isOwn address = false →
      traffic.Connects circumstances letter address →
      letter.connection = (traffic.progress.calls address).asked := by
  intro h
  let device : Address := .plain ⟨.v4 10 0 0 7, 1234, 0⟩
  have hbegun : Reachable {} _ := .begin ⟨0, {}⟩ rfl rfl
  have hwished := hbegun.step (.arrive (askToConnect device 0) rfl
    (Letter.mayArrive_of_other rfl))
  have htaken := hwished.step (.take rfl rfl rfl)
  have hasked := htaken.step (.handle ⟨0, {}⟩ [] rfl rfl ⟨rfl, by simp, by simp⟩)
  have hrepeated := hasked.step (.arrive (askToConnect device 1) rfl
    (Letter.mayArrive_of_other rfl))
  have hanswered := hrepeated.step (.arrive (accept device 1 1) rfl
    (Letter.mayArrive_of_open rfl (by decide +kernel) (by decide +kernel)))
  have htakenAgain := hanswered.step (.take rfl rfl rfl)
  have haskedAgain := htakenAgain.step (.handle ⟨0, {}⟩ [] rfl (Gateway.result_dispatch _ _ rfl _)
    ⟨Queue.eq_of_parts (by decide +kernel) (by decide +kernel), by simp, by simp⟩)
  have hreach := haskedAgain.step (.take rfl rfl rfl)
  have hcurrent := h {} _ (accept device 1 1) device ⟨0, {}⟩ hreach rfl (by decide +kernel)
    ⟨by decide +kernel, by decide +kernel⟩
  exact absurd hcurrent (by decide +kernel)

end Traffic

end SensorGateway
