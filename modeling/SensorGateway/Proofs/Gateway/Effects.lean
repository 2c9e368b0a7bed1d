import SensorGateway.Gateway.Basic
import SensorGateway.Proofs.Session.Timeouts
import SensorGateway.Proofs.Timers
import SensorGateway.Proofs.Uplink

/-!
What carrying out effects comes to. The effects of a session change the timers
and put envelopes on the queue, and leave the rest of the gateway alone; so do
those of the uplink. What they do to the timers of one address depends on the
effects about timers only, and other addresses are not touched.
-/

namespace SensorGateway

/-! ### Sessions -/

def Timers.use (config : Config) (address : Address) (timers : Timers) :
    Session.Effect → Timers
  | .arm signal => (timers.register (Gateway.answerTimer config address signal)).2
  | .disarm signal => (timers.unregister address signal).2
  | .disarmAll => (timers.unregisterAll address).2
  | .broker _ | .device .. | .forGateway .. => timers

def Session.Effect.envelope? (config : Config) : Session.Effect → Option Envelope
  | .forGateway message link => some ⟨some config.gatewayAddress, .sensor message link⟩
  | _ => none

theorem Progress.performAll_gateway (network : Network) (address : Address)
    (effects : List Session.Effect) (progress : Progress) :
    (progress.performAll network address effects).gateway =
      { progress.gateway with
        timers := effects.foldl (Timers.use progress.gateway.config address)
          progress.gateway.timers
        queue := (effects.filterMap (·.envelope? progress.gateway.config)).foldl Queue.put
          progress.gateway.queue } := by
  induction effects generalizing progress with
  | nil => rfl
  | cons effect effects ih =>
    have hrest := ih (progress.perform network address effect)
    cases effect with
    | broker use => exact hrest
    | device link target message => exact hrest
    | arm signal => exact hrest
    | disarm signal => exact hrest
    | disarmAll => exact hrest
    | forGateway message link => exact hrest

namespace Timers

variable {config : Config} {address other : Address}

/-- Only the effects about timers count. -/
theorem foldl_use_filter (effects : List Session.Effect) (timers : Timers) :
    (effects.filter (·.usesTimer)).foldl (use config address) timers =
      effects.foldl (use config address) timers := by
  induction effects generalizing timers with
  | nil => rfl
  | cons effect effects ih =>
    cases effect with
    | broker use => exact ih timers
    | device link target message => exact ih timers
    | arm signal => exact ih _
    | disarm signal => exact ih _
    | disarmAll => exact ih _
    | forGateway message link => exact ih timers

theorem tasksAt_use_other (h : address.same other = false) (timers : Timers)
    (effect : Session.Effect) :
    (timers.use config address effect).tasksAt other = timers.tasksAt other := by
  cases effect with
  | broker use => rfl
  | device link target message => rfl
  | arm signal => exact tasksAt_register_other h
  | disarm signal =>
    refine tasksAt_cancel_other h ?_
    intro timer hfor
    exact (Bool.and_eq_true_iff.mp hfor).1
  | disarmAll => exact tasksAt_cancel_other h fun timer hsame => hsame
  | forGateway message link => rfl

/-- What a session does to timers is no affair of other addresses. -/
theorem tasksAt_uses_other (h : address.same other = false) (effects : List Session.Effect)
    (timers : Timers) :
    (effects.foldl (use config address) timers).tasksAt other = timers.tasksAt other := by
  induction effects generalizing timers with
  | nil => rfl
  | cons effect effects ih =>
    exact (ih (timers.use config address effect)).trans (tasksAt_use_other h timers effect)

theorem signalsAt_use (h : address.same other = true) (timers : Timers)
    (effect : Session.Effect) :
    (timers.use config address effect).signalsAt other =
      effect.rearm (timers.signalsAt other) := by
  cases effect with
  | broker use => rfl
  | device link target message => rfl
  | arm signal => exact signalsAt_register h
  | disarm signal => exact signalsAt_unregister h
  | disarmAll => exact signalsAt_unregisterAll h
  | forGateway message link => rfl

/-- What a session does to its own timers can be told from their signals alone. -/
theorem signalsAt_uses (h : address.same other = true) (effects : List Session.Effect)
    (timers : Timers) :
    (effects.foldl (use config address) timers).signalsAt other =
      effects.foldl Session.Effect.rearm (timers.signalsAt other) := by
  induction effects generalizing timers with
  | nil => rfl
  | cons effect effects ih =>
    simp only [List.foldl_cons]
    rw [ih, signalsAt_use h]

theorem follows_use (timers : Timers) (effect : Session.Effect) :
    Follows timers (timers.use config address effect) := by
  cases effect with
  | broker use => exact .refl timers
  | device link target message => exact .refl timers
  | arm signal => exact follows_register timers _
  | disarm signal => exact follows_cancel timers _
  | disarmAll => exact follows_cancel timers _
  | forGateway message link => exact .refl timers

/-- Timers that a session starts get numbers that were not given before. -/
theorem follows_uses (effects : List Session.Effect) (timers : Timers) :
    Follows timers (effects.foldl (use config address) timers) := by
  induction effects generalizing timers with
  | nil => exact .refl timers
  | cons effect effects ih => exact (follows_use timers effect).trans (ih _)

theorem started_use {effect : Session.Effect} (h : effect.startsTimer = false) (timers : Timers) :
    (timers.use config address effect).started = timers.started := by
  cases effect with
  | arm signal => cases h
  | _ => rfl

theorem started_uses {effects : List Session.Effect}
    (h : ∀ effect ∈ effects, effect.startsTimer = false) (timers : Timers) :
    (effects.foldl (use config address) timers).started = timers.started := by
  induction effects generalizing timers with
  | nil => rfl
  | cons effect effects ih =>
    have hfirst : (timers.use config address effect).started = timers.started :=
      started_use (h effect List.mem_cons_self) timers
    exact (ih (fun later hlater => h later (List.mem_cons_of_mem _ hlater)) _).trans hfirst

/-- An effect of a session keeps every timer that it starts. -/
theorem keeps_use (timers : Timers) (effect : Session.Effect) :
    Keeps timers (timers.use config address effect) := by
  cases effect with
  | arm signal => exact keeps_register timers _
  | _ => exact keeps_of_started rfl

/-- A timer that the last effect starts is not ended by the others. -/
theorem keeps_uses {effects : List Session.Effect}
    (h : ∀ effect ∈ effects.dropLast, effect.startsTimer = false) (timers : Timers) :
    Keeps timers (effects.foldl (use config address) timers) := by
  rcases effects.eq_nil_or_concat with rfl | ⟨others, last, rfl⟩
  · exact keeps_of_started rfl
  · rw [List.concat_eq_append, List.dropLast_concat] at h
    rw [List.concat_eq_append, List.foldl_append]
    intro number hstarted hnumber
    rw [← started_uses h timers] at hstarted
    exact keeps_use _ last number hstarted hnumber

end Timers

/-! ### The uplink -/

def Timers.useUplink (config : Config) (timers : Timers) : Uplink.Effect → Timers
  | .keepAlive => timers.schedule (Gateway.keepAliveTimer config)
  | .disarmAll => (timers.unregisterAll config.gatewayAddress).2
  | .event _ | .checkInactivity => timers

theorem Timers.foldl_useUplink_filter (config : Config) (effects : List Uplink.Effect)
    (timers : Timers) :
    (effects.filter (·.usesTimer)).foldl (useUplink config) timers =
      effects.foldl (useUplink config) timers := by
  induction effects generalizing timers with
  | nil => rfl
  | cons effect effects ih =>
    cases effect with
    | event event => exact ih timers
    | keepAlive => exact ih _
    | disarmAll => exact ih _
    | checkInactivity => exact ih timers

def Uplink.Effect.envelope? : Uplink.Effect → Option Envelope
  | .checkInactivity => some ⟨none, .signal .checkInactivity⟩
  | _ => none

theorem Progress.performUplink_gateway (effects : List Uplink.Effect) (progress : Progress) :
    (effects.foldl performUplink progress).gateway =
      { progress.gateway with
        timers := effects.foldl (Timers.useUplink progress.gateway.config) progress.gateway.timers
        queue := (effects.filterMap (·.envelope?)).foldl Queue.put progress.gateway.queue } := by
  induction effects generalizing progress with
  | nil => rfl
  | cons effect effects ih =>
    have hrest := ih (progress.performUplink effect)
    cases effect with
    | event event => exact hrest
    | keepAlive => exact hrest
    | disarmAll => exact hrest
    | checkInactivity => exact hrest

end SensorGateway
