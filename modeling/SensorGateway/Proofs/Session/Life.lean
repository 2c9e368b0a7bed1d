import SensorGateway.Proofs.Session.Links
import SensorGateway.Proofs.Session.Topics

/-!
A session from its beginning on, turn after turn. The turns are numbered, so that
it can be said of what a session does in one turn from which earlier turn it
comes. A life has no end, and every run of a session is the beginning of one, also
that of a session which the gateway gives up afterwards.
-/

namespace SensorGateway.Session

structure Life where
  config : Config
  address : Address
  begun : Nat
  turn : Nat → Turn

/-- A run can be cut at any turn. -/
theorem run_append (config : Config) (first second : List Turn) (session : Session) :
    (session.run config (first ++ second)).session =
      ((session.run config first).session.run config second).session := by
  induction first generalizing session with
  | nil => rfl
  | cons turn first ih => exact ih _

namespace Life

/-- The session as it is before the turn of this number. -/
def before (life : Life) : Nat → Session
  | 0 => begin life.config life.address life.begun
  | n + 1 => ((life.before n).take life.config (life.turn n)).session

def step (life : Life) (n : Nat) : Transition :=
  (life.before n).take life.config (life.turn n)

def context (life : Life) (n : Nat) : Context := (life.turn n).context life.config

/-- The session at the beginning of a turn, when nothing was done in it yet. -/
def opening (life : Life) (n : Nat) : Transition :=
  .start ((life.before n).hear life.config (life.turn n))

def Hears (life : Life) (n : Nat) (message : Sensor.Message) : Prop :=
  ∃ seen link, (life.turn n).input = .sensor seen message link

/-- A life that begins with these turns. Afterwards nothing happens any more. -/
def ofTurns (config : Config) (address : Address) (begun : Nat) (turns : List Turn) : Life where
  config := config
  address := address
  begun := begun
  turn := fun n => turns.getD n ⟨begun, {}, .signal .sendKeepAlive⟩

variable (life : Life)

@[simp] theorem phase_opening (n : Nat) : (life.opening n).session.phase = (life.before n).phase :=
  phase_hear life.config (life.turn n) (life.before n)

@[simp] theorem topics_opening (n : Nat) :
    (life.opening n).session.topics = (life.before n).topics :=
  topics_hear life.config (life.turn n) (life.before n)

theorem before_succ (n : Nat) : life.before (n + 1) = (life.step n).session := rfl

theorem step_of_sensor {n : Nat} {seen : Address} {message : Sensor.Message} {link : LinkName}
    (h : (life.turn n).input = .sensor seen message link) :
    life.step n = (life.opening n).sensor (life.context n) message link :=
  take_sensor life.config h (life.before n)

theorem step_of_broker {n : Nat} {message : Broker.Message}
    (h : (life.turn n).input = .broker message) :
    life.step n = (life.opening n).broker (life.context n) message :=
  take_broker life.config h (life.before n)

/-- A signal other than the look at how long the device has been silent. -/
theorem step_of_signal {n : Nat} {signal : Signal} (h : (life.turn n).input = .signal signal)
    (hstays : signal ≠ .checkInactivity) :
    life.step n = (life.opening n).signal (life.context n) signal :=
  take_signal life.config h hstays (life.before n)

/-- A life is the run of its turns. -/
theorem before_eq_run (n : Nat) :
    life.before n =
      ((begin life.config life.address life.begun).run life.config
        ((List.range n).map life.turn)).session := by
  induction n with
  | zero => rfl
  | succ n ih =>
    rw [List.range_succ, List.map_append, run_append, ← ih]
    rfl

/-- Every run is the beginning of a life. -/
theorem before_ofTurns (config : Config) (address : Address) (begun : Nat) (turns : List Turn) :
    (ofTurns config address begun turns).before turns.length =
      ((begin config address begun).run config turns).session := by
  rw [before_eq_run]
  congr 1
  refine congrArg (run config · _) (List.ext_getElem (by simp) fun n hn hturns => ?_)
  simp [ofTurns, hturns]

/-- A session is sound at any time. -/
theorem sound_before (n : Nat) : Sound life.config (life.before n) := by
  rw [before_eq_run]
  exact (run_sound _ (sound_begin _ _ _)).1

/-! ### Turn after turn -/

/-- What holds up to a turn holds one turn longer. -/
theorem forall_le_succ {P : Nat → Prop} {j n : Nat} (h : ∀ k, j ≤ k → k ≤ n → P k)
    (hlast : P (n + 1)) (k : Nat) (hafter : j ≤ k) (hbefore : k ≤ n + 1) : P k := by
  rcases Nat.le_succ_iff.mp hbefore with hbefore | rfl
  · exact h k hafter hbefore
  · exact hlast

/-- If there is one thing at most in a turn and it comes from some turn, there is a
function that tells the turn from which it comes. -/
theorem exists_source {α : Type} {things : Nat → List α} {Comes : Nat → Nat → α → Prop}
    (h : ∀ n, ∀ thing ∈ things n, things n = [thing] ∧ ∃ i, Comes i n thing) :
    ∃ source : Nat → Nat, ∀ n, ∀ thing ∈ things n,
      things n = [thing] ∧ Comes (source n) n thing := by
  have hsource (n : Nat) : ∃ i, ∀ thing ∈ things n, things n = [thing] ∧ Comes i n thing := by
    by_cases hnone : things n = []
    · exact ⟨n, fun thing hin => by rw [hnone] at hin; cases hin⟩
    · obtain ⟨thing, hin⟩ := List.exists_mem_of_ne_nil _ hnone
      obtain ⟨hone, i, hcomes⟩ := h n thing hin
      refine ⟨i, fun other hother => ?_⟩
      obtain rfl : other = thing := List.mem_singleton.mp (hone ▸ hother)
      exact ⟨hone, hcomes⟩
  choose source hsource using hsource
  exact ⟨source, hsource⟩

end Life

/-! ### The link to the device -/

/-- A session that never heard its device is idle. -/
def Reached (session : Session) : Prop :=
  session.link = none → session.phase = .idle

/-- Only its device wakes an idle session up. -/
theorem phase_take_of_idle {config : Config} {turn : Turn} {session : Session}
    (hidle : session.phase = .idle)
    (hother : ∀ seen message link, turn.input ≠ .sensor seen message link) :
    (session.take config turn).session.phase = .idle := by
  obtain ⟨now, line, input⟩ := turn
  cases input with
  | sensor seen message link => exact (hother seen message link rfl).elim
  | broker message => cases message <;> simp [take, onBroker, Transition.broker,
      Transition.connack, Transition.start, hidle]
  | signal signal =>
    simp only [take, onSignal]
    split
    · exact hidle
    · cases signal with
      | shutDown =>
        simp only [Transition.signal, Transition.shutDown]
        split <;> exact hidle
      | _ => simp [Transition.signal, Transition.connectionLost, Transition.willTopicTimeout,
          Transition.willMessageTimeout, Transition.regackTimeout, Transition.start, hidle]

/-- A turn gets a session going only if the device is heard, or was before. -/
theorem Reached.take {config : Config} {session : Session} (h : session.Reached) (turn : Turn) :
    (session.take config turn).session.Reached := by
  intro hnone
  rw [(take_accounted config turn session).link] at hnone
  have hother : ∀ seen message link, turn.input ≠ .sensor seen message link := by
    intro seen message link hinput
    simp [hear, hinput] at hnone
  have hsame : (session.hear config turn).link = session.link := by
    unfold hear
    split
    next seen message link hinput => exact (hother seen message link hinput).elim
    next => rfl
    next => rfl
  exact phase_take_of_idle (h (hsame ▸ hnone)) hother

/-- At no time does a session do anything before its device was heard. -/
theorem Life.reached_before (life : Life) (n : Nat) : (life.before n).Reached := by
  induction n with
  | zero => exact fun _ => rfl
  | succ n ih => exact ih.take (life.turn n)

/-- A session that is in the midst of something has a link to its device. -/
theorem Reached.link_hear {session : Session} (h : session.Reached) (config : Config)
    (turn : Turn) (hbusy : session.phase ≠ .idle) :
    (session.hear config turn).link.isSome = true := by
  have hlink : session.link.isSome = true := by
    rw [← Option.ne_none_iff_isSome]
    exact fun hnone => hbusy (h hnone)
  unfold hear
  split
  next => rfl
  next => simp only [hlink]
  next => exact hlink

/-- A session that heard its device, or is in the midst of something, has a link to it. -/
theorem Life.link_opening (life : Life) (n : Nat)
    (h : (life.before n).phase ≠ .idle ∨ ∃ message, life.Hears n message) :
    (life.opening n).session.link.isSome = true := by
  rcases h with hbusy | ⟨message, seen, link, hheard⟩
  · exact (life.reached_before n).link_hear life.config (life.turn n) hbusy
  · simp only [opening, Transition.start, hear, hheard, Option.isSome_some]

theorem reached_run (config : Config) (address : Address) (begun : Nat) (turns : List Turn) :
    ((begin config address begun).run config turns).session.Reached := by
  rw [← Life.before_ofTurns]
  exact Life.reached_before _ _

/-- A connected device has been heard over some link. -/
theorem Life.link_of_isConnected {life : Life} {n : Nat}
    (h : (life.opening n).session.phase.isConnected = true) :
    (life.opening n).session.link.isSome = true := by
  refine life.link_opening n (.inl fun hidle => ?_)
  rw [phase_opening, hidle] at h
  cases h

end SensorGateway.Session
