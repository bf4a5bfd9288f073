import ActionGateway.Network.Server

/-!
# What a server leaves behind

While a server serves, calls begin and end; when it has been told to shut down it waits, and calls
may still begin and end between the polls. `Server.Serves` says what can come of it, and by which
events its lifecycle gets there. `Server.serve` is the case in which no call begins or ends
(`Server.serves_serve`).

A server that has started to listen is made ready before its certificate and its key are loaded, and
only a drain takes that back. So one that comes to an end in any other way stays ready, though it
takes no calls: `Server.ready_after_serving_iff`.

What is asked of the health is always the same: what it is after a list of events, given what it was
before. Calls leave it as it is (`Guarded.health_run_of_isCall`), and a wait either stops the server
or does so too (`Guarded.Waits.health`).
-/

namespace ActionGateway

namespace Lifecycle

/-! ## Waiting

A wait polls until a poll says how it ends. Between two polls calls begin and end, so the count that
each poll sees may be another one; `Guarded.Waits` lists the events of a wait, with those of the
calls among them. -/

/-- The event is that a call begins or ends. -/
def Event.isCall : Event → Bool
  | guard => true
  | release => true
  | _ => false

/-- A poll that decides ends the wait. -/
theorem idleVerdict_of_some {inFlight : UInt64} {deadline clock : Nat} {drained : Bool}
    (h : Poll.verdict? deadline ⟨inFlight, clock⟩ = some drained) :
    idleVerdict inFlight deadline clock = drained := by
  rw [idleVerdict]
  split
  next hfound => exact Option.some.inj (hfound.symm.trans h)
  next hnone => cases hnone.symm.trans h

/-- One that does not is followed by another, after a pause. -/
theorem idleVerdict_of_none {inFlight : UInt64} {deadline clock : Nat}
    (h : Poll.verdict? deadline ⟨inFlight, clock⟩ = none) :
    idleVerdict inFlight deadline clock =
      idleVerdict inFlight deadline (clock + pollInterval) := by
  rw [idleVerdict]
  split
  next hfound => cases hfound.symm.trans h
  next => rfl

/-- Only a drain that is complete changes the health. -/
theorem health_afterWait (l : Lifecycle) (drained : Bool) :
    (l.afterWait drained).health = if drained then .stopped else l.health := by
  cases drained <;> rfl

namespace Guarded

variable {g : Guarded} {event : Event} {events : List Event}

/-- Events are run one after the other. -/
theorem run_cons (g : Guarded) (event : Event) (events : List Event) :
    g.run (event :: events) = (g.step event).run events :=
  rfl

/-- A run may be taken in two parts. -/
theorem run_append (g : Guarded) (front back : List Event) :
    g.run (front ++ back) = (g.run front).run back :=
  List.foldl_append

/-- The beginning and the end of a call change the count and nothing else. -/
theorem health_step_of_isCall (h : event.isCall = true) :
    (g.step event).lifecycle.health = g.lifecycle.health := by
  cases event with
  | guard => rfl
  | release =>
    simp only [step]
    split <;> rfl
  | setReady => cases h
  | beginDrain => cases h
  | poll => cases h

/-- **Calls leave the health as it is**, in whatever order they begin and end. -/
theorem health_run_of_isCall (h : ∀ event ∈ events, event.isCall = true) :
    (g.run events).lifecycle.health = g.lifecycle.health := by
  induction events generalizing g with
  | nil => rfl
  | cons event events ih =>
    obtain ⟨hevent, hrest⟩ := List.forall_mem_cons.mp h
    rw [run_cons, ih hrest, health_step_of_isCall hevent]

/-- The events of a wait, calls between its polls included, and whether the drain is complete. All
polls but the last leave that open. A poll is one event, for calls have no say in what it stores. -/
inductive Waits (deadline : Nat) : Guarded → List Event → Bool → Prop
  | call {g : Guarded} {event : Event} {events : List Event} {drained : Bool}
    (hcall : event.isCall = true) (hrest : Waits deadline (g.step event) events drained) :
    Waits deadline g (event :: events) drained
  | goesOn {g : Guarded} {events : List Event} {drained : Bool} (clock : Nat)
    (hpoll : Poll.verdict? deadline ⟨g.lifecycle.inFlight, clock⟩ = none)
    (hrest : Waits deadline g events drained) :
    Waits deadline g (.poll deadline clock :: events) drained
  | ends {g : Guarded} {drained : Bool} (clock : Nat)
    (hpoll : Poll.verdict? deadline ⟨g.lifecycle.inFlight, clock⟩ = some drained) :
    Waits deadline g [.poll deadline clock] drained

variable {deadline : Nat} {drained : Bool}

/-- A poll that leaves open how the wait ends changes nothing. -/
theorem step_poll_of_none {clock : Nat}
    (h : Poll.verdict? deadline ⟨g.lifecycle.inFlight, clock⟩ = none) :
    g.step (.poll deadline clock) = g := by
  simp only [step, h]

/-- The last poll stores what has come of the wait. -/
theorem step_poll_of_some {clock : Nat}
    (h : Poll.verdict? deadline ⟨g.lifecycle.inFlight, clock⟩ = some drained) :
    g.step (.poll deadline clock) = { g with lifecycle := g.lifecycle.afterWait drained } := by
  simp only [step, h]

/-- **After a wait the server has stopped if the drain is complete**, and is as it was if not. What
calls did in between does not matter. -/
theorem Waits.health (h : Waits deadline g events drained) :
    (g.run events).lifecycle.health = if drained then .stopped else g.lifecycle.health := by
  -- the induction is on the events of the wait, of which the last is a poll that decides
  induction h with
  | call hcall _ ih => rw [run_cons, ih, health_step_of_isCall hcall]
  | goesOn clock hpoll _ ih => rw [run_cons, step_poll_of_none hpoll, ih]
  | ends clock hpoll =>
    rw [run_cons, step_poll_of_some hpoll]
    exact health_afterWait _ _

/-- **A wait during which no call begins or ends has polls alone**, from any time on. -/
theorem exists_waits_idle (g : Guarded) (deadline clock : Nat) :
    ∃ polls, g.Waits deadline polls (idleVerdict g.lifecycle.inFlight deadline clock) ∧
      (g.run polls).lifecycle =
        g.lifecycle.afterWait (idleVerdict g.lifecycle.inFlight deadline clock) := by
  -- the induction is on the polls that are left until the deadline
  induction clock using idleVerdict.induct g.lifecycle.inFlight deadline with
  | case1 clock drained hpoll =>
    rw [idleVerdict_of_some hpoll]
    refine ⟨_, .ends clock hpoll, ?_⟩
    rw [run_cons, step_poll_of_some hpoll]
    rfl
  | case2 clock hpoll ih =>
    obtain ⟨polls, hwaits, hafter⟩ := ih
    rw [idleVerdict_of_none hpoll]
    refine ⟨_, .goesOn clock hpoll hwaits, ?_⟩
    rw [run_cons, step_poll_of_none hpoll, hafter]

end Guarded

end Lifecycle

open Lifecycle

namespace Server

/-! ## Serving

A server that serves comes to an end in one of four ways. For each of them the events of its
lifecycle are listed as they are caused by the server itself, with calls in between; the health
after them is then a matter of running the list. -/

/-- What can come of a server that serves, with the events of its lifecycle until then.

* It has not started to listen.
* Its certificate and its key cannot be loaded.
* Its connections fail, for whatever reason; `message` tells it.
* It is told to shut down, and drains. -/
inductive Serves (server : Server) (load : TlsLoader) (g : Guarded) :
    List Event → Except String Unit → Prop
  | notStarted (hlistening : server.listening = false) :
    Serves server load g [] (.error ServeFault.notStarted.message)
  | refused {calls : List Event} {fault : TlsFault} (hlistening : server.listening = true)
    (hload : server.loadTls load = .error fault) (hcalls : ∀ event ∈ calls, event.isCall = true) :
    Serves server load g (.setReady :: calls) (.error (ServeFault.tls fault).message)
  | broken {calls : List Event} (message : String) (hlistening : server.listening = true)
    (hload : server.loadTls load = .ok ()) (hcalls : ∀ event ∈ calls, event.isCall = true) :
    Serves server load g (.setReady :: calls) (.error message)
  | shutDown {calls wait : List Event} {drained : Bool} (hlistening : server.listening = true)
    (hload : server.loadTls load = .ok ()) (hcalls : ∀ event ∈ calls, event.isCall = true)
    (hwait : Guarded.Waits server.network.drainTimeout
      (g.run (.setReady :: calls ++ [.beginDrain])) wait drained) :
    Serves server load g (.setReady :: calls ++ .beginDrain :: wait) (.ok ())

variable {server : Server} {load : TlsLoader} {g : Guarded} {events : List Event}
  {result : Except String Unit}

/-- **What a server does while no call begins or ends** is one of the things that can come of it. -/
theorem serves_serve (server : Server) (load : TlsLoader) (g : Guarded) :
    ∃ events, server.Serves load g events
        ((server.serve load g.lifecycle).1.mapError ServeFault.message) ∧
      (g.run events).lifecycle = (server.serve load g.lifecycle).2 := by
  rw [serve]
  split
  next hlistening =>
    split
    next hload =>
      have hnone : ∀ event ∈ ([] : List Event), event.isCall = true := fun _ hmem => nomatch hmem
      obtain ⟨polls, hwaits, hafter⟩ :=
        (g.run [.setReady, .beginDrain]).exists_waits_idle server.network.drainTimeout 0
      exact ⟨_, .shutDown hlistening hload hnone hwaits, hafter⟩
    next fault hload =>
      exact ⟨[.setReady], .refused hlistening hload (fun _ hmem => nomatch hmem), rfl⟩
  next hlistening => exact ⟨[], .notStarted (Bool.eq_false_iff.mpr hlistening), rfl⟩

/-- **How a server leaves the health when its service ends**: as it was if the server has not
started to listen, ready if anything else went wrong, and draining or stopped if nothing did. -/
theorem Serves.health (h : server.Serves load g events result) :
    (server.listening = false ∧ (∃ message, result = .error message) ∧ events = []) ∨
      (server.listening = true ∧ (∃ message, result = .error message) ∧
        (g.run events).lifecycle.health = .ready) ∨
      (server.listening = true ∧ result = .ok () ∧
        ∃ drained : Bool,
          (g.run events).lifecycle.health = if drained then .stopped else .draining) := by
  cases h with
  | notStarted hlistening => exact .inl ⟨hlistening, ⟨_, rfl⟩, rfl⟩
  | refused hlistening hload hcalls =>
    exact .inr (.inl ⟨hlistening, ⟨_, rfl⟩, Guarded.health_run_of_isCall hcalls⟩)
  | broken message hlistening hload hcalls =>
    exact .inr (.inl ⟨hlistening, ⟨_, rfl⟩, Guarded.health_run_of_isCall hcalls⟩)
  | @shutDown calls wait drained hlistening hload hcalls hwait =>
    -- here alone the drain comes after the server has been made ready
    have hsplit : Event.setReady :: calls ++ .beginDrain :: wait =
        (.setReady :: calls ++ [.beginDrain]) ++ wait := by
      simp
    refine .inr (.inr ⟨hlistening, rfl, drained, ?_⟩)
    rw [hsplit, Guarded.run_append, hwait.health, Guarded.run_append]
    rfl

/-- A server that was not ready before its service is ready after it exactly if it listens and the
service ends with an error. -/
theorem Serves.ready_iff (h : server.Serves load g events result)
    (hstart : g.lifecycle.health ≠ .ready) :
    (g.run events).lifecycle.health = .ready ↔
      server.listening = true ∧ ∃ message, result = .error message := by
  -- not listening leaves the health as it was, which is not ready; a drain does not end in it
  -- either
  rcases h.health with ⟨hlistening, -, rfl⟩ | ⟨hlistening, herror, hready⟩ |
      ⟨-, rfl, drained, hdrained⟩
  · refine iff_of_false hstart ?_
    rintro ⟨htrue, -⟩
    cases hlistening.symm.trans htrue
  · exact iff_of_true hready ⟨hlistening, herror⟩
  · refine iff_of_false ?_ ?_
    · rw [hdrained]
      cases drained <;> decide
    · rintro ⟨-, message, herror⟩
      cases herror

/-- An error leaves the health as it was exactly if the server does not listen. -/
theorem Serves.health_eq_iff {message : String}
    (h : server.Serves load g events (.error message)) (hstart : g.lifecycle.health ≠ .ready) :
    (g.run events).lifecycle.health = g.lifecycle.health ↔ server.listening = false := by
  rcases h.health with ⟨hlistening, -, rfl⟩ | ⟨hlistening, -, hready⟩ | ⟨-, hok, -⟩
  · exact iff_of_true rfl hlistening
  · refine iff_of_false ?_ ?_
    · rw [hready]
      exact Ne.symm hstart
    · rw [hlistening]
      exact Bool.noConfusion
  · cases hok

/-- **A server whose service has ended is ready exactly if it had started to listen and something
went wrong.** Let the server not be ready before.

* Where no call begins or ends and the connections do not fail, it is ready afterwards exactly if it
  listens and its certificate and its key cannot be loaded.
* Whatever happens meanwhile, it is ready afterwards exactly if it listens and its service ends with
  an error; and such an error leaves the health as it was exactly if the server does not listen. -/
theorem ready_after_serving_iff (hstart : g.lifecycle.health ≠ .ready) (server : Server)
    (load : TlsLoader) :
    ((server.serve load g.lifecycle).2.health = .ready ↔
      server.listening = true ∧ ∃ fault, server.loadTls load = .error fault) ∧
    ∀ events result, server.Serves load g events result →
      ((g.run events).lifecycle.health = .ready ↔
        server.listening = true ∧ ∃ message, result = .error message) ∧
      ((∃ message, result = .error message) →
        ((g.run events).lifecycle.health = g.lifecycle.health ↔ server.listening = false)) := by
  refine ⟨?_, fun events result h => ⟨h.ready_iff hstart, ?_⟩⟩
  · obtain ⟨events, hidle, hafter⟩ := serves_serve server load g
    rw [← hafter, hidle.ready_iff hstart]
    refine and_congr_right fun hlistening => ?_
    rw [serve, if_pos hlistening]
    cases server.loadTls load with
    | ok =>
      exact iff_of_false (fun ⟨_, herror⟩ => nomatch herror) fun ⟨_, hfault⟩ => nomatch hfault
    | error fault => exact iff_of_true ⟨_, rfl⟩ ⟨fault, rfl⟩
  · rintro ⟨message, rfl⟩
    exact h.health_eq_iff hstart

/-- A server without a certificate that is told to shut down while a call is in flight drains; one
whose certificate is missing stays ready, and one that does not listen stays as it is. -/
theorem ready_after_serving_iff_starting :
    let files : Place := ⟨.directory [], []⟩
    let load : TlsLoader := .reading files fun _ _ => true
    let plain := Server.new .default
    let secure := Server.new { NetworkConfig.default with tls := some ⟨"cert.pem", "key.pem"⟩ }
    let events : List Event :=
      [.setReady, .guard, .beginDrain, .poll 30000 0, .poll 30000 30000]
    (plain.start.Serves load .new events (.ok ()) ∧
        (Guarded.new.run events).lifecycle.health ≠ .ready) ∧
      (secure.start.serve load .new).2.health = .ready ∧
      (secure.serve load .new).2.health ≠ .ready := by
  intro files load plain secure events
  have hstart : Guarded.new.lifecycle.health ≠ .ready := by decide
  refine ⟨?_, ?_, ?_⟩
  · have hcalls : ∀ event ∈ [Event.guard], event.isCall = true := by decide
    have hwait : Guarded.Waits 30000 (Guarded.new.run [.setReady, .guard, .beginDrain])
        [.poll 30000 0, .poll 30000 30000] false :=
      .goesOn 0 (by decide) (.ends 30000 (by decide))
    have hserves : plain.start.Serves load .new events (.ok ()) :=
      .shutDown rfl rfl hcalls hwait
    refine ⟨hserves, ?_⟩
    obtain ⟨-, hwhatever⟩ := ready_after_serving_iff hstart plain.start load
    rw [Ne, (hwhatever _ _ hserves).1]
    rintro ⟨-, message, herror⟩
    cases herror
  · exact (ready_after_serving_iff hstart secure.start load).1.mpr
      ⟨rfl, .unreadable "cert.pem" .missing, rfl⟩
  · intro hready
    obtain ⟨hlistening, -⟩ := (ready_after_serving_iff hstart secure load).1.mp hready
    cases hlistening

/-- **A server that does not serve can report that it is ready.** Its certificate does not exist, so
its service ends at once with an error; but it is ready then, and was not before. -/
theorem serving_without_certificate_leaves_ready :
    let server := (Server.new { NetworkConfig.default with
      tls := some ⟨"/nonexistent/cert.pem", "/nonexistent/key.pem"⟩ }).start
    let load : TlsLoader := .reading ⟨.directory [], []⟩ fun _ _ => true
    Lifecycle.new.health = .starting ∧
      server.serve load .new =
        (.error (.tls (.unreadable "/nonexistent/cert.pem" .missing)), ⟨.ready, 0⟩) := by
  intro server load
  exact ⟨rfl, rfl⟩

end Server

end ActionGateway
