import SensorGateway.Queue

/-!
The timers of the gateway. A task sends its signal to its address again and
again, once in every period, until it is cancelled. Tasks are told apart by
whom they are for and what they signal; registering a task that is there
already has no effect, while scheduling one always adds it. Every task has a
number of its own, which tells it from the tasks that ran for the same address
and signal before it.
-/

namespace SensorGateway

structure Timer where
  address : Address
  signal : Signal
  /-- In milliseconds. -/
  period : Nat
deriving DecidableEq

namespace Timer

/-- Whether a task is the one for this address and signal. -/
def isFor (timer : Timer) (address : Address) (signal : Signal) : Bool :=
  timer.address.same address && timer.signal == signal

/-- What a task puts on the queue each time its period is over. -/
def envelope (timer : Timer) : Envelope :=
  ⟨some timer.address, .signal timer.signal⟩

end Timer

/-- A timer that runs. -/
structure Task where
  number : Nat
  timer : Timer
deriving DecidableEq

structure Timers where
  /-- The tasks that run, in the order in which they were started. -/
  tasks : List Task
  /-- How many tasks were ever started, which is the number of the next one. -/
  started : Nat
deriving DecidableEq

namespace Timers

def none : Timers := ⟨[], 0⟩

def count (timers : Timers) (address : Address) (signal : Signal) : Nat :=
  timers.tasks.countP (·.timer.isFor address signal)

def isRegistered (timers : Timers) (address : Address) (signal : Signal) : Bool :=
  timers.tasks.any (·.timer.isFor address signal)

/-- Starts a task in any case. -/
def schedule (timers : Timers) (timer : Timer) : Timers :=
  ⟨timers.tasks ++ [⟨timers.started, timer⟩], timers.started + 1⟩

/-- Starts a task unless the same one runs, and tells whether it did. -/
def register (timers : Timers) (timer : Timer) : Bool × Timers :=
  if timers.isRegistered timer.address timer.signal then (false, timers)
  else (true, timers.schedule timer)

/-- Ends the tasks for which `ends` holds, and tells how many. -/
def cancel (timers : Timers) (ends : Timer → Bool) : Nat × Timers :=
  (timers.tasks.countP (ends ·.timer),
    { timers with tasks := timers.tasks.filter fun task => !ends task.timer })

def unregister (timers : Timers) (address : Address) (signal : Signal) : Nat × Timers :=
  timers.cancel (·.isFor address signal)

/-- Ends every task for an address. -/
def unregisterAll (timers : Timers) (address : Address) : Nat × Timers :=
  timers.cancel (·.address.same address)

def size (timers : Timers) : Nat := timers.tasks.length

def isEmpty (timers : Timers) : Bool := timers.tasks.isEmpty

/-- Of the tasks whose period is at most `patience`, the one with the shortest;
of several the one that was started first. It is the first to be heard of. -/
def first? (timers : Timers) (patience : Nat) : Option Timer :=
  timers.tasks.foldl
    (fun best task =>
      let timer := task.timer
      if timer.period ≤ patience && best.all (timer.period < ·.period) then some timer
      else best)
    Option.none

end Timers

end SensorGateway
