/-!
# The life of a server

A server starts, gets ready, drains and stops; which of these it is doing is its **health**. Beside
it stands how many calls are in flight. A drain waits until no call is in flight or a deadline has
passed: it looks at the count and then at the clock, again and again, and each look is a **poll**.

Times are numbers without a bound. A clock of a machine has one: a wait whose deadline lies beyond
it ends in a panic before its first poll, whatever the count is. Such a wait is **left out** here;
what is said of waits is said of those whose deadline the clock can show.
-/

namespace ActionGateway

/-! ## Moves

A move says what the health is from now on, and does not look at what it was. -/

/-- What a server is doing. -/
inductive Health
  | starting
  | ready
  | draining
  | stopped
  deriving DecidableEq, Repr

/-- The word for it in the answer of the health route. -/
def Health.text : Health → String
  | starting => "starting"
  | ready => "ready"
  | draining => "draining"
  | stopped => "stopped"

/-- What is shared between a server, its calls and those who ask for its health. -/
structure Lifecycle where
  health : Health
  /-- how many calls are in flight -/
  inFlight : UInt64
  deriving DecidableEq, Repr

namespace Lifecycle

/-- The life of a server that has just been made. -/
def new : Lifecycle :=
  ⟨.starting, 0⟩

/-- The server takes calls, whatever it did before. -/
def setReady (l : Lifecycle) : Lifecycle :=
  { l with health := .ready }

/-- The server takes no further calls, whatever it did before. -/
def beginDrain (l : Lifecycle) : Lifecycle :=
  { l with health := .draining }

/-- A call begins. -/
def enter (l : Lifecycle) : Lifecycle :=
  { l with inFlight := l.inFlight + 1 }

/-- A call ends. -/
def leave (l : Lifecycle) : Lifecycle :=
  { l with inFlight := l.inFlight - 1 }

/-! ## Draining -/

/-- What a poll sees. -/
structure Poll where
  inFlight : UInt64
  /-- the time, in milliseconds since the wait began -/
  clock : Nat
  deriving DecidableEq, Repr

/-- Whether the wait ends with a poll, and then whether the drain is complete. The count is looked
at before the clock. -/
def Poll.verdict? (deadline : Nat) (poll : Poll) : Option Bool :=
  if poll.inFlight = 0 then some true
  else if deadline ≤ poll.clock then some false
  else none

/-- How a wait ends whose polls see the given things, or nothing if it goes on after them. -/
def waitVerdict? (deadline : Nat) : List Poll → Option Bool
  | [] => none
  | poll :: rest =>
    match poll.verdict? deadline with
    | some drained => some drained
    | none => waitVerdict? deadline rest

/-- The state after a wait has ended. -/
def afterWait (l : Lifecycle) (drained : Bool) : Lifecycle :=
  if drained then { l with health := .stopped } else l

/-- The time between two polls, in milliseconds. -/
def pollInterval : Nat := 10

/-- A poll that does not end the wait comes before the deadline. -/
theorem Poll.clock_lt_of_verdict?_eq_none {deadline : Nat} {poll : Poll}
    (h : poll.verdict? deadline = none) : poll.clock < deadline := by
  unfold Poll.verdict? at h
  split at h
  · cases h
  · split at h
    · cases h
    · omega

/-- Whether the drain is complete when a wait ends that polls from a time on, after every interval,
and during which no call begins or ends. Each poll but the last comes before the deadline, so the
time left grows less. The deadline is taken for one that the clock can show. -/
def idleVerdict (inFlight : UInt64) (deadline clock : Nat) : Bool :=
  match _h : Poll.verdict? deadline ⟨inFlight, clock⟩ with
  | some drained => drained
  | none => idleVerdict inFlight deadline (clock + pollInterval)
termination_by deadline - clock
decreasing_by
  have := Poll.clock_lt_of_verdict?_eq_none _h
  simp only [pollInterval] at *
  omega

/-- A wait during which no call begins or ends: the state after it, and whether the drain is
complete. A deadline that the clock cannot show, with which there would be no poll at all, is left
out. -/
def wait (l : Lifecycle) (deadline : Nat) : Lifecycle × Bool :=
  let drained := idleVerdict l.inFlight deadline 0
  (l.afterWait drained, drained)

/-! ## Guards

A call holds a guard while it runs. A guard that is out has counted itself in and will count itself
out once, so the two counts agree as long as fewer guards are out than the machine's count can hold.
-/

/-- What happens to a lifecycle. -/
inductive Event
  | setReady
  | beginDrain
  /-- a guard is taken, with which a call begins -/
  | guard
  /-- a guard is given back, with which the call ends; without a guard this is nothing -/
  | release
  /-- a poll of a wait that ends at the deadline -/
  | poll (deadline clock : Nat)
  deriving DecidableEq, Repr

/-- A lifecycle, and how many guards of it are out. -/
structure Guarded where
  lifecycle : Lifecycle
  guards : Nat
  deriving DecidableEq, Repr

namespace Guarded

def new : Guarded :=
  ⟨Lifecycle.new, 0⟩

/-- The state after an event. -/
def step (g : Guarded) : Event → Guarded
  | .setReady => { g with lifecycle := g.lifecycle.setReady }
  | .beginDrain => { g with lifecycle := g.lifecycle.beginDrain }
  | .guard => ⟨g.lifecycle.enter, g.guards + 1⟩
  | .release => if g.guards = 0 then g else ⟨g.lifecycle.leave, g.guards - 1⟩
  | .poll deadline clock =>
    match Poll.verdict? deadline ⟨g.lifecycle.inFlight, clock⟩ with
    | some drained => { g with lifecycle := g.lifecycle.afterWait drained }
    | none => g

/-- The state after events, one after the other. -/
def run (g : Guarded) (events : List Event) : Guarded :=
  events.foldl step g

/-- A wait during which nothing else happens. -/
def wait (g : Guarded) (deadline : Nat) : Guarded × Bool :=
  let (lifecycle, drained) := g.lifecycle.wait deadline
  ({ g with lifecycle := lifecycle }, drained)

end Guarded

end Lifecycle

end ActionGateway
