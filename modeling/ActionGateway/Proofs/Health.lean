import ActionGateway.Proofs.Routing
import Mathlib.Data.List.Infix

/-!
# Health over a run

Health is meant to go **forward**: from starting to ready, to draining, to stopped. Callers that
share a lifecycle make **moves**, one after the other and in any order. A wait makes two moves where
it finds no call in flight, since it looks at the count first and says that the server has stopped
after that; other callers may move in between.

No move asks what the health is that it replaces. So it depends on the run whether health goes
forward, and `Lifecycle.Shared.forward_iff` says on what: no move may make ready a server that
drains or has stopped, or drain one that has stopped. The look at whether the server takes calls
shows the health as it is; `Gateway.drained_is_ready_again_iff` puts the two together.

A run is a list of moves from any shared lifecycle, not only from a new one, and the moves of
several callers stand in it in the order in which they were made. What a move does is said once
(`Shared.health_step`); the results about runs are inductions over the list that use nothing else.
-/

namespace ActionGateway

/-- How far a server has come. Going forward means that this number does not get smaller. -/
def Health.stage : Health → Nat
  | starting => 0
  | ready => 1
  | draining => 2
  | stopped => 3

/-- No server is further than one that has stopped. -/
theorem Health.stage_le_stopped (health : Health) : health.stage ≤ stopped.stage := by
  cases health <;> decide

namespace Lifecycle

/-! ## Moves

The events of a lifecycle are moves. A wait is more than one of them, because between its look at
the count and what it says of it another caller may move: `Shared.pending` counts the waits that
have looked and not yet spoken. With nothing in between, the two moves are the poll of
`Lifecycle.Guarded` (`Shared.run_look_stop`). -/

/-- What a caller does with a lifecycle that others share. -/
inductive Move
  | event (event : Event)
  /-- a wait that ends at the deadline looks at the count, and then at the clock -/
  | look (deadline clock : Nat)
  /-- a wait that has seen no call in flight says that the server has stopped -/
  | stop
  deriving DecidableEq, Repr

/-- A lifecycle that callers share. -/
structure Shared where
  guarded : Guarded
  /-- how many waits have seen no call in flight and have still to say so -/
  pending : Nat
  deriving DecidableEq, Repr

namespace Shared

/-- A lifecycle that nobody has touched. -/
def new : Shared :=
  ⟨.new, 0⟩

/-- What callers see of it. -/
def health (s : Shared) : Health :=
  s.guarded.lifecycle.health

/-- The state after a move. Without a wait that has still to say so, that the server has stopped is
not said. -/
def step (s : Shared) : Move → Shared
  | .event event => { s with guarded := s.guarded.step event }
  | .look deadline clock =>
    if Poll.verdict? deadline ⟨s.guarded.lifecycle.inFlight, clock⟩ = some true then
      { s with pending := s.pending + 1 }
    else s
  | .stop =>
    if s.pending = 0 then s
    else ⟨{ s.guarded with lifecycle := s.guarded.lifecycle.afterWait true }, s.pending - 1⟩

/-- The state after moves, one after the other. -/
def run (s : Shared) (moves : List Move) : Shared :=
  moves.foldl step s

variable {s : Shared} {move : Move} {moves : List Move}

theorem run_cons (s : Shared) (move : Move) (moves : List Move) :
    s.run (move :: moves) = (s.step move).run moves :=
  rfl

theorem run_append (s : Shared) (front back : List Move) :
    s.run (front ++ back) = (s.run front).run back :=
  List.foldl_append

/-- Moves that are events are a run of the lifecycle itself. -/
theorem run_map_event (s : Shared) (events : List Event) :
    s.run (events.map .event) = { s with guarded := s.guarded.run events } := by
  induction events generalizing s with
  | nil => rfl
  | cons event events ih =>
    rw [List.map_cons, run_cons, ih]
    rfl

/-- **A poll is the two moves of a wait with nothing in between.** -/
theorem run_look_stop (hpending : s.pending = 0) (deadline clock : Nat) :
    s.run [.look deadline clock, .stop] = s.step (.event (.poll deadline clock)) := by
  obtain ⟨guarded, pending⟩ := s
  obtain rfl : pending = 0 := hpending
  simp only [run, List.foldl_cons, List.foldl_nil, step, Guarded.step]
  cases Poll.verdict? deadline ⟨guarded.lifecycle.inFlight, clock⟩ with
  | none => simp
  | some drained => cases drained <;> simp [Lifecycle.afterWait]

/-- **What one move does to the health**: nothing, or it makes the server ready, drains it or stops
it. -/
theorem health_step (s : Shared) (move : Move) :
    (s.step move).health = s.health ∨
      (move = .event .setReady ∧ (s.step move).health = .ready) ∨
      (move = .event .beginDrain ∧ (s.step move).health = .draining) ∨
      (s.step move).health = .stopped := by
  cases move with
  | event event =>
    cases event with
    | setReady => exact .inr (.inl ⟨rfl, rfl⟩)
    | beginDrain => exact .inr (.inr (.inl ⟨rfl, rfl⟩))
    | guard => exact .inl rfl
    | release =>
      left
      simp only [step, Guarded.step, health]
      split <;> rfl
    | poll deadline clock =>
      simp only [step, Guarded.step, health]
      split
      next drained _ =>
        cases drained with
        | true => exact .inr (.inr (.inr rfl))
        | false => exact .inl rfl
      next => exact .inl rfl
  | look deadline clock =>
    left
    simp only [step, health]
    split <;> rfl
  | stop =>
    simp only [step, health]
    split
    · exact .inl rfl
    · exact .inr (.inr (.inr rfl))

/-! ## Forward and back

Of the moves two set the health without a look at what it was, so they are the ones that can come
too late. Whether one does depends on the health before it (`GoesBack`), and a run goes forward if
none of its moves does. -/

/-- A move would take the server back: it makes ready one that drains or has stopped, or drains one
that has stopped. To stop a server is never too late. -/
def GoesBack (s : Shared) (move : Move) : Prop :=
  (move = .event .setReady ∧ Health.ready.stage < s.health.stage) ∨
    (move = .event .beginDrain ∧ Health.draining.stage < s.health.stage)

instance (s : Shared) (move : Move) : Decidable (s.GoesBack move) :=
  inferInstanceAs (Decidable (_ ∨ _))

/-- At no time in a run is the server less far than it has been before. The two times are given as
prefixes of the run, one of which goes on to the other. -/
def Forward (s : Shared) (moves : List Move) : Prop :=
  ∀ front middle, front ++ middle <+: moves →
    (s.run front).health.stage ≤ (s.run (front ++ middle)).health.stage

/-- **A move takes the server back exactly if it comes too late.** The left side names the move and
the health that it meets, the right side looks at the stages before and after. -/
theorem goesBack_iff : s.GoesBack move ↔ (s.step move).health.stage < s.health.stage := by
  constructor
  · rintro (⟨rfl, hlate⟩ | ⟨rfl, hlate⟩)
    · exact hlate
    · exact hlate
  · intro hback
    -- a move that changes nothing, or stops the server, takes nothing back
    rcases s.health_step move with hsame | ⟨hmove, hready⟩ | ⟨hmove, hdraining⟩ | hstopped
    · rw [hsame] at hback
      exact absurd hback (Nat.lt_irrefl _)
    · exact .inl ⟨hmove, hready ▸ hback⟩
    · exact .inr ⟨hmove, hdraining ▸ hback⟩
    · rw [hstopped] at hback
      exact absurd s.health.stage_le_stopped (Nat.not_le.mpr hback)

/-- **A run goes forward exactly if none of its moves comes too late.** One such move is enough to
break it, wherever it stands in the run and whatever follows it. -/
theorem forward_iff :
    s.Forward moves ↔ ∀ front move, front ++ [move] <+: moves → ¬ (s.run front).GoesBack move := by
  constructor
  · intro hforward front move hfront hback
    have hle := hforward front [move] hfront
    rw [run_append] at hle
    exact absurd (goesBack_iff.mp hback) (Nat.not_lt.mpr hle)
  · intro hnone front middle
    -- one move after the other goes over from the middle to the front
    induction middle generalizing front with
    | nil =>
      intro _
      rw [List.append_nil]
    | cons move middle ih =>
      intro hfront
      have hsplit : front ++ move :: middle = (front ++ [move]) ++ middle := by simp
      rw [hsplit] at hfront ⊢
      have hmove : front ++ [move] <+: moves := (List.prefix_append _ _).trans hfront
      have hone : (s.run front).health.stage ≤ (s.run (front ++ [move])).health.stage := by
        rw [run_append]
        exact Nat.not_lt.mp (mt goesBack_iff.mpr (hnone front move hmove))
      exact hone.trans (ih (front ++ [move]) hfront)

/-- A server that is not ready gets so by being made ready, and in no other way. -/
theorem setReady_mem_of_ready (hstart : s.health ≠ .ready) (hend : (s.run moves).health = .ready) :
    .event .setReady ∈ moves := by
  induction moves generalizing s with
  | nil => exact absurd hend hstart
  | cons move moves ih =>
    -- either this move has made the server ready, or one of the rest has
    by_cases hmid : (s.step move).health = .ready
    · obtain rfl : move = .event .setReady := by
        rcases s.health_step move with hsame | ⟨hmove, -⟩ | ⟨-, hdraining⟩ | hstopped
        · exact absurd (hsame.symm.trans hmid) hstart
        · exact hmove
        · exact absurd (hdraining.symm.trans hmid) (by decide)
        · exact absurd (hstopped.symm.trans hmid) (by decide)
      exact List.mem_cons_self
    · exact List.mem_cons_of_mem _ (ih hmid hend)

/-- **A server that is not ready gets so in a run exactly if a move of it makes it ready.** -/
theorem exists_ready_iff (hstart : s.health ≠ .ready) :
    (∃ front, front <+: moves ∧ (s.run front).health = .ready) ↔ .event .setReady ∈ moves := by
  constructor
  · rintro ⟨front, hfront, hready⟩
    exact hfront.subset (setReady_mem_of_ready hstart hready)
  · intro hmem
    obtain ⟨front, back, rfl⟩ := List.append_of_mem hmem
    refine ⟨front ++ [.event .setReady], ⟨back, by simp⟩, ?_⟩
    rw [run_append]
    rfl

end Shared

end Lifecycle

/-! ## The look at whether the server takes calls

A caller from outside sees the health through a route, which answers by 200 if the server is ready.
The route has a path of its own before those of the API, so it is reached whatever the base path is.
-/

/-- The path of that look is its own, wherever the API lies. -/
theorem Route.find?_readiness (base : String) :
    find? base "/health/ready" = some (.readiness, []) := by
  have htable : table (PathPattern.read base) =
      [(PathPattern.text "/health", health), (PathPattern.text "/health/live", alive)] ++
        (PathPattern.text "/health/ready", readiness) :: apiTable (PathPattern.read base) := rfl
  refine find?_eq_some htable ?_ (by decide)
  simp only [List.mem_cons, List.not_mem_nil, or_false]
  rintro row (rfl | rfl)
  · decide
  · decide

namespace Gateway

open Lifecycle

variable {g : Gateway} {request : Request}

/-- **The look shows the health as it is.** -/
theorem status_readiness (hpath : request.target.path = "/health/ready")
    (hserves : Route.readiness.serves request.method = true)
    (hlimit : g.bodyLimit? request ≠ none) :
    (g.respond request).value.status = if g.lifecycle.health = .ready then 200 else 503 := by
  obtain ⟨limit, hsome⟩ := Option.ne_none_iff_exists'.mp hlimit
  have hroute : g.route? request = some (.readiness, []) := by
    rw [Gateway.route?, hpath]
    exact Route.find?_readiness _
  rw [respond_of_serves hsome hroute hserves, Traced.value_map, status_dressed]
  rfl

/-- The gateway whose lifecycle is the one that callers share. The count of waits that have not
spoken is not a part of it: it is known to those who wait alone. -/
def sharing (g : Gateway) (s : Shared) : Gateway :=
  { g with lifecycle := s.guarded.lifecycle }

/-- **Health goes back exactly where a move comes too late.**

* A run goes forward exactly if no move of it makes ready a server that drains or has stopped, or
  drains one that has stopped.
* From a drain on the server is ready again at some time exactly if it is made ready once more.
* So it is too with the look at whether the server takes calls: it is answered by 200 again exactly
  in that case. -/
theorem drained_is_ready_again_iff (hpath : request.target.path = "/health/ready")
    (hserves : Route.readiness.serves request.method = true)
    (hlimit : g.bodyLimit? request ≠ none) (s : Shared) (moves : List Move) :
    let drained := s.step (.event .beginDrain)
    (s.Forward moves ↔
      ∀ front move, front ++ [move] <+: moves → ¬ (s.run front).GoesBack move) ∧
    ((∃ front, front <+: moves ∧ (drained.run front).health = .ready) ↔
      .event .setReady ∈ moves) ∧
    ((∃ front, front <+: moves ∧
        ((g.sharing (drained.run front)).respond request).value.status = 200) ↔
      .event .setReady ∈ moves) := by
  intro drained
  have hdrained : drained.health ≠ .ready := Health.noConfusion
  -- at each time of the run the look shows the health, so the statement about looks is the one
  -- about the health
  have hlook (state : Shared) :
      ((g.sharing state).respond request).value.status = 200 ↔ state.health = .ready := by
    have hstatus : ((g.sharing state).respond request).value.status =
        if state.health = .ready then 200 else 503 :=
      status_readiness hpath hserves hlimit
    rw [hstatus]
    split
    next hready => exact iff_of_true rfl hready
    next hready => exact iff_of_false (by decide) hready
  refine ⟨Shared.forward_iff, Shared.exists_ready_iff hdrained, ?_⟩
  simp only [hlook]
  exact Shared.exists_ready_iff hdrained

/-- A wait that has seen no call in flight may say so when other callers have moved: then the run of
a server that gets ready, takes a call and drains still goes forward. -/
theorem drained_is_ready_again_iff_late_stop :
    let g := offering ⟨.empty, .default⟩ .empty
    let request : Request := ⟨.get, ⟨"/health/ready", none⟩, [], []⟩
    let moves : List Move :=
      [.event .setReady, .look 100 0, .event .guard, .event .beginDrain, .stop, .event .release]
    Shared.new.Forward moves ∧
      ¬ ∃ front, front <+: [Move.look 100 0, .stop] ∧
        ((g.sharing ((Shared.new.step (.event .beginDrain)).run front)).respond
          request).value.status = 200 := by
  intro g request moves
  have hpath : request.target.path = "/health/ready" := rfl
  have hlimit : g.bodyLimit? request ≠ none := by decide
  obtain ⟨hforward, -, -⟩ := drained_is_ready_again_iff hpath rfl hlimit .new moves
  obtain ⟨-, -, hlook⟩ :=
    drained_is_ready_again_iff hpath rfl hlimit .new [Move.look 100 0, .stop]
  refine ⟨?_, ?_⟩
  · -- a prefix of the run that ends in a move is one of finitely many
    have hnone : ∀ begun ∈ moves.inits, ∀ move ∈ begun.getLast?,
        ¬ (Shared.new.run begun.dropLast).GoesBack move := by
      decide
    refine hforward.mpr fun front move hbegun => ?_
    have hlast := hnone _ ((List.mem_inits _ _).mpr hbegun) move (by simp)
    rwa [List.dropLast_concat] at hlast
  · rw [hlook]
    decide

/-- **A server that has begun to drain can be ready again.** It is made ready after it has begun to
drain; then the look at whether it takes calls is answered by 200 as if it had never begun. -/
theorem late_setReady_undoes_drain :
    let g := offering ⟨.empty, .default⟩ .empty
    let request : Request := ⟨.get, ⟨"/health/ready", none⟩, [], []⟩
    let drained := Shared.new.step (.event .beginDrain)
    let s := drained.step (.event .setReady)
    drained.health = .draining ∧ ((g.sharing drained).respond request).value.status = 503 ∧
      s.health = .ready ∧ ((g.sharing s).respond request).value.status = 200 ∧
      ¬ Shared.new.Forward [.event .beginDrain, .event .setReady] := by
  intro g request drained s
  refine ⟨rfl, by decide +kernel, rfl, by decide +kernel, fun hforward => ?_⟩
  have hle := hforward [.event .beginDrain] [.event .setReady] (List.prefix_refl _)
  exact absurd hle (by decide)

end Gateway

end ActionGateway
