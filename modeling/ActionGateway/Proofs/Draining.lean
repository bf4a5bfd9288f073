import ActionGateway.Proofs.Health
import ActionGateway.Proofs.Shutdown
import Mathlib.Data.List.Chain

/-!
# Draining while others move

A wait shares its lifecycle with other callers, and any of their moves may come between two of its
own steps (`Lifecycle.Drain`). Its polls are kept, so that what comes of it can be told by what they
have seen. A look at the clock shows nothing that others share, and counts to the look at the calls
before it.

Two things are proved of every run. The count is that of the guards that are out, whatever the
callers do (`Lifecycle.Guarded.Counted`); so it is the number of guards taken less the number of
those released, as long as that fits (`Lifecycle.CountContract`). And a wait ends as its polls say,
and does nothing to the lifecycle but to say at its end that the server has stopped
(`Lifecycle.DrainContract`).
-/

namespace ActionGateway

namespace Lifecycle

/-! ## How many calls are in flight

Beside the counter of 64 bits stands the number of guards that are out, which has no bound. That the
first is the second, to the modulus of the counter, is an invariant of every move (`Counted`):
taking a guard adds one to both, and releasing one takes one off both, unless there is none. No move
but these two changes either of them, and a wait changes neither.

The second number is then compared with the history: it is what was taken less what was released, if
no guard is released that is not out (`Balanced`). -/

/-- How many guards are taken by moves. -/
def taken (moves : List Move) : Nat :=
  moves.count (.event .guard)

/-- How many guards are released by moves. -/
def released (moves : List Move) : Nat :=
  moves.count (.event .release)

/-- Every guard that is released has been taken before, and is released once. -/
def Balanced (moves : List Move) : Prop :=
  ∀ front, front <+: moves → released front ≤ taken front

variable {front back moves : List Move} {move : Move}

/-- One more move counts if it takes a guard. -/
theorem taken_concat : taken (front ++ [move]) =
    taken front + if move = .event .guard then 1 else 0 := by
  rw [taken, List.count_append, List.count_singleton]
  simp only [beq_iff_eq, taken]

/-- One more move counts if it releases a guard. -/
theorem released_concat : released (front ++ [move]) =
    released front + if move = .event .release then 1 else 0 := by
  rw [released, List.count_append, List.count_singleton]
  simp only [beq_iff_eq, released]

/-- What is balanced was balanced all the time. -/
theorem Balanced.of_append (h : Balanced (front ++ back)) : Balanced front := fun start hstart =>
  h start (hstart.trans (List.prefix_append front back))

/-- No more guards are released than were taken. -/
theorem Balanced.released_le (h : Balanced moves) : released moves ≤ taken moves :=
  h moves (List.prefix_refl moves)

/-- The end of a wait does not touch the count. -/
theorem inFlight_afterWait (l : Lifecycle) (drained : Bool) :
    (l.afterWait drained).inFlight = l.inFlight := by
  cases drained <;> rfl

namespace Guarded

variable {g : Guarded}

/-- The count is that of the guards that are out, to the modulus of the counter. -/
def Counted (g : Guarded) : Prop :=
  g.lifecycle.inFlight = UInt64.ofNat g.guards

/-- Below the modulus of the counter the count is the number of guards itself. -/
theorem Counted.toNat (h : g.Counted) (hfew : g.guards < UInt64.size) :
    g.lifecycle.inFlight.toNat = g.guards := by
  rw [h, UInt64.toNat_ofNat_of_lt' hfew]

/-- **Every event keeps the count.** A guard that is released without being out changes nothing, so
there is no case in which the counter would go below zero. -/
theorem Counted.step (h : g.Counted) (event : Event) : (g.step event).Counted := by
  cases event with
  | setReady => exact h
  | beginDrain => exact h
  | guard =>
    -- adding one and going to the modulus come to the same in either order
    have henter : g.lifecycle.inFlight + 1 = UInt64.ofNat (g.guards + 1) := by
      rw [UInt64.ofNat_add, ← h]
      rfl
    exact henter
  | release =>
    simp only [Guarded.step]
    split
    next => exact h
    next hguards =>
      have hleave : g.lifecycle.inFlight - 1 = UInt64.ofNat (g.guards - 1) := by
        rw [UInt64.ofNat_sub (Nat.one_le_iff_ne_zero.mpr hguards), ← h]
        rfl
      exact hleave
  | poll deadline clock =>
    simp only [Guarded.step]
    split
    next drained _ => exact (inFlight_afterWait g.lifecycle drained).trans h
    next => exact h

end Guarded

namespace Shared

variable {s : Shared} {moves : List Move} {move : Move}

/-- How many calls are in flight, as the lifecycle that is shared counts them. -/
def inFlight (s : Shared) : UInt64 :=
  s.guarded.lifecycle.inFlight

/-- How many guards of it are out. -/
def guards (s : Shared) : Nat :=
  s.guarded.guards

/-- The state when a wait has said that the server has stopped. -/
def stopped (s : Shared) : Shared :=
  { s with guarded := { s.guarded with lifecycle := s.guarded.lifecycle.afterWait true } }

/-- At the beginning no guard is out and the count is zero. -/
theorem counted_new : new.guarded.Counted :=
  Eq.refl (0 : UInt64)

/-- The end of a wait keeps the count. -/
theorem counted_stopped (h : s.guarded.Counted) : s.stopped.guarded.Counted :=
  (inFlight_afterWait s.guarded.lifecycle true).trans h

/-- **Every move keeps the count.** -/
theorem counted_step (h : s.guarded.Counted) (move : Move) : (s.step move).guarded.Counted := by
  cases move with
  | event event => exact h.step event
  | look deadline clock =>
    simp only [step]
    split <;> exact h
  | stop =>
    simp only [step]
    split <;> exact h

/-- **So does a run**, by induction on its moves. -/
theorem counted_run (h : s.guarded.Counted) (moves : List Move) :
    (s.run moves).guarded.Counted := by
  induction moves generalizing s with
  | nil => exact h
  | cons move moves ih => exact ih (counted_step h move)

/-- Only calls that begin and end change how many guards are out. -/
theorem guards_step (s : Shared) (move : Move) : (s.step move).guards =
    if move = .event .guard then s.guards + 1
    else if move = .event .release then s.guards - 1 else s.guards := by
  cases move with
  | event event =>
    cases event with
    | setReady => rfl
    | beginDrain => rfl
    | guard => rfl
    | release =>
      simp only [step, Guarded.step, guards]
      split
      next hnone => simp [hnone]
      next => simp
    | poll deadline clock =>
      simp only [step, Guarded.step, guards]
      split <;> simp
  | look deadline clock =>
    simp only [step, guards]
    split <;> simp
  | stop =>
    simp only [step, guards]
    split <;> simp

/-- How many guards are out after a run depends on how many were out before it, and on nothing else.
So the end of a wait, which changes the health alone, can be left out of account. -/
theorem guards_run_congr {t : Shared} (h : s.guards = t.guards) (moves : List Move) :
    (s.run moves).guards = (t.run moves).guards := by
  induction moves generalizing s t with
  | nil => exact h
  | cons move moves ih =>
    refine ih ?_
    rw [guards_step, guards_step, h]

/-- In particular it makes no difference whether the server has stopped. -/
theorem guards_run_stopped (s : Shared) (moves : List Move) :
    (s.stopped.run moves).guards = (s.run moves).guards :=
  guards_run_congr (s := s.stopped) (t := s) rfl moves

/-- One more move keeps the sum of the guards that are out and those that were released. -/
theorem guards_step_add_released (hsum : s.guards + released moves = taken moves)
    (h : Balanced (moves ++ [move])) :
    (s.step move).guards + released (moves ++ [move]) = taken (moves ++ [move]) := by
  have hle := h.released_le
  rw [guards_step]
  rw [taken_concat, released_concat] at hle ⊢
  by_cases hguard : move = .event .guard
  · have hrelease : move ≠ .event .release := by
      rw [hguard]
      exact fun heq => nomatch heq
    rw [if_pos hguard, if_pos hguard, if_neg hrelease]
    omega
  · rw [if_neg hguard] at hle ⊢
    rw [if_neg hguard]
    by_cases hrelease : move = .event .release
    · rw [if_pos hrelease] at hle ⊢
      rw [if_pos hrelease]
      omega
    · rw [if_neg hrelease, if_neg hrelease]
      exact hsum

/-- **Guards that are out were taken and not released.** By induction on the moves from the last one
back, since what is balanced was balanced before the last move. -/
theorem guards_run_add_released (h : Balanced moves) :
    (new.run moves).guards + released moves = taken moves := by
  induction moves using List.reverseRecOn with
  | nil => rfl
  | append_singleton front move ih =>
    have hlast : new.run (front ++ [move]) = (new.run front).step move := run_append _ _ _
    rw [hlast]
    exact guards_step_add_released (ih h.of_append) h

end Shared

/-- How the count of a lifecycle stands after moves. -/
structure CountContract (moves : List Move) (s : Shared) : Prop where
  /-- it is the number of guards taken and not released -/
  exact : Balanced moves → taken moves - released moves < UInt64.size →
    s.inFlight.toNat = taken moves - released moves
  /-- it does not wrap when one more guard is released that is out -/
  release : Balanced (moves ++ [.event .release]) → taken moves - released moves < UInt64.size →
    (s.step (.event .release)).inFlight.toNat + 1 = s.inFlight.toNat

/-- **The count is exact** where it is that of guards that were taken and not released. A count of
64 bits shows the difference of the two as long as that fits. -/
theorem CountContract.of_counted {s : Shared} (hcounted : s.guarded.Counted)
    (hguards : Balanced moves → s.guards + released moves = taken moves) :
    CountContract moves s where
  exact := by
    intro hbalanced hfew
    have hout := Nat.eq_sub_of_add_eq (hguards hbalanced)
    rw [← hout] at hfew ⊢
    exact hcounted.toNat hfew
  release := by
    intro hbalanced hfew
    have hne : Move.event .release ≠ .event .guard := by decide
    have hsum := hguards hbalanced.of_append
    have hsum' := Shared.guards_step_add_released hsum hbalanced
    rw [taken_concat, released_concat, if_neg hne, if_pos rfl] at hsum'
    have hout : s.guards < UInt64.size := by omega
    have hout' : (s.step (.event .release)).guards < UInt64.size := by omega
    have hbefore : s.inFlight.toNat = s.guards := hcounted.toNat hout
    have hafter : (s.step (.event .release)).inFlight.toNat =
        (s.step (.event .release)).guards :=
      (Shared.counted_step hcounted _).toNat hout'
    omega

/-! ## How a wait ends

A wait goes on as long as its polls decide nothing. A poll decides for success if it sees no call in
flight, whatever the clock shows, and for failure if it sees one and comes no earlier than the
deadline. The first poll that decides anything decides it all, which is `findSome?` over the polls.
-/

section

variable {deadline : Nat} {poll : Poll} {polls : List Poll}

/-- A poll decides for success exactly if it sees no call in flight. -/
theorem Poll.verdict?_eq_true_iff : poll.verdict? deadline = some true ↔ poll.inFlight = 0 := by
  rw [verdict?]
  split
  next hzero => exact iff_of_true rfl hzero
  next hzero => split <;> simp [hzero]

/-- A poll decides for failure exactly if it sees a call in flight and the deadline has come. -/
theorem Poll.verdict?_eq_false_iff : poll.verdict? deadline = some false ↔
    poll.inFlight ≠ 0 ∧ deadline ≤ poll.clock := by
  rw [verdict?]
  split
  next hzero => simp [hzero]
  next hzero => split <;> simp [*]

/-- The first poll that decides anything decides how the wait ends. -/
theorem waitVerdict?_eq_findSome? (deadline : Nat) (polls : List Poll) :
    waitVerdict? deadline polls = polls.findSome? (Poll.verdict? deadline) := by
  induction polls with
  | nil => rfl
  | cons poll polls ih =>
    rw [waitVerdict?, List.findSome?_cons]
    cases poll.verdict? deadline with
    | none => exact ih
    | some drained => rfl

/-- One more poll decides if no poll before it has. -/
theorem waitVerdict?_concat (deadline : Nat) (polls : List Poll) (poll : Poll) :
    waitVerdict? deadline (polls ++ [poll]) =
      (waitVerdict? deadline polls).or (poll.verdict? deadline) := by
  rw [waitVerdict?_eq_findSome?, List.findSome?_append, List.findSome?_singleton,
    waitVerdict?_eq_findSome?]

/-- **The drain is complete exactly if a poll sees no call in flight, and none before it comes as
late as the deadline.** It does not matter when that poll itself comes. -/
theorem waitVerdict?_eq_true_iff : waitVerdict? deadline polls = some true ↔
    ∃ front poll back, polls = front ++ poll :: back ∧ poll.inFlight = 0 ∧
      ∀ earlier ∈ front, earlier.clock < deadline := by
  rw [waitVerdict?_eq_findSome?]
  constructor
  · rw [List.findSome?_eq_some_iff]
    rintro ⟨front, poll, back, rfl, hpoll, hfront⟩
    exact ⟨front, poll, back, rfl, Poll.verdict?_eq_true_iff.mp hpoll, fun earlier hearlier =>
      Poll.clock_lt_of_verdict?_eq_none (hfront earlier hearlier)⟩
  · rintro ⟨front, poll, back, rfl, hzero, hfront⟩
    rw [List.findSome?_append, List.findSome?_cons, Poll.verdict?_eq_true_iff.mpr hzero]
    -- a poll before it may have seen no call either, but none has failed
    rcases hfound : front.findSome? (Poll.verdict? deadline) with _ | _ | _
    · rfl
    · obtain ⟨earlier, hearlier, hfalse⟩ := List.exists_of_findSome?_eq_some hfound
      obtain ⟨-, hlate⟩ := Poll.verdict?_eq_false_iff.mp hfalse
      exact absurd (hfront earlier hearlier) (Nat.not_lt.mpr hlate)
    · rfl

/-- A wait that is given no time at all still finds that no call is in flight. -/
example : waitVerdict? 0 [⟨0, 7⟩] = some true := rfl

end

/-! ## A wait among other callers

A wait is a loop of its own steps: it polls, and when a poll has seen no call in flight it says that
the server has stopped. That is a step by itself. Other callers move between any two of these steps,
also between the last poll and what follows from it; so when the wait says that the server has
stopped, a call may be in flight again.

A run is a list of turns, each of the wait or of another caller, and what the clock shows at a poll
comes with the turn. No reading is related to another one unless `Paced` says so. -/

/-- Where a wait has got to. -/
inductive Stage
  | polling
  /-- it has seen no call in flight, and has still to say that the server has stopped -/
  | idle
  | ended (drained : Bool)
  deriving DecidableEq, Repr

/-- Where a wait gets to with a poll. -/
def Stage.ofVerdict : Option Bool → Stage
  | none => polling
  | some true => idle
  | some false => ended false

/-- What is known of the end of a wait. -/
def Stage.verdict? : Stage → Option Bool
  | polling => none
  | idle => some true
  | ended drained => some drained

/-- What a poll decides is known afterwards. -/
theorem Stage.verdict?_ofVerdict (verdict : Option Bool) :
    (ofVerdict verdict).verdict? = verdict := by
  rcases verdict with _ | _ | _ <;> rfl

/-- No wait has said with a poll that the server has stopped. -/
theorem Stage.ofVerdict_ne (verdict : Option Bool) : ofVerdict verdict ≠ ended true := by
  rcases verdict with _ | _ | _ <;> decide

/-- A wait, and the lifecycle that it shares. -/
structure Drain where
  /-- the lifecycle, and what other callers have in the making -/
  shared : Shared
  stage : Stage
  /-- what the polls have seen, in order -/
  polls : List Poll

/-- What happens while a wait lasts. -/
inductive Turn
  /-- another caller moves -/
  | other (move : Move)
  /-- the wait takes its next step; if that is a poll, this is what the clock shows -/
  | own (clock : Nat)

/-- The moves of the other callers. -/
def others : List Turn → List Move
  | [] => []
  | .other move :: turns => move :: others turns
  | .own _ :: turns => others turns

/-- The moves of the others come in the order of the turns. -/
theorem others_append (front back : List Turn) :
    others (front ++ back) = others front ++ others back := by
  induction front with
  | nil => rfl
  | cons turn front ih =>
    cases turn with
    | other move => exact congrArg (move :: ·) ih
    | own clock => exact ih

/-- How many steps the wait has been given. -/
def ownSteps : List Turn → Nat
  | [] => 0
  | .other _ :: turns => ownSteps turns
  | .own _ :: turns => ownSteps turns + 1

namespace Drain

/-- A wait that begins. -/
def new (s : Shared) : Drain :=
  ⟨s, .polling, []⟩

/-- The wait polls. -/
def look (d : Drain) (deadline clock : Nat) : Drain :=
  let poll : Poll := ⟨d.shared.inFlight, clock⟩
  { d with stage := .ofVerdict (poll.verdict? deadline), polls := d.polls ++ [poll] }

/-- The state after a turn. -/
def step (deadline : Nat) (d : Drain) : Turn → Drain
  | .other move => { d with shared := d.shared.step move }
  | .own clock =>
    match d.stage with
    | .polling => d.look deadline clock
    | .idle => { d with shared := d.shared.stopped, stage := .ended true }
    | .ended _ => d

/-- The state after turns, one after the other. -/
def run (deadline : Nat) (d : Drain) (turns : List Turn) : Drain :=
  turns.foldl (step deadline) d

variable {deadline clock : Nat} {d : Drain} {turns : List Turn} {drained : Bool}

/-- A run takes its first turn first. -/
theorem run_cons (deadline : Nat) (d : Drain) (turn : Turn) (turns : List Turn) :
    d.run deadline (turn :: turns) = (d.step deadline turn).run deadline turns :=
  rfl

/-- A wait that goes on polls. -/
theorem step_own_of_polling (h : d.stage = .polling) :
    d.step deadline (.own clock) = d.look deadline clock := by
  simp only [step, h]

/-- A wait that has seen no call in flight says that the server has stopped. -/
theorem step_own_of_idle (h : d.stage = .idle) : d.step deadline (.own clock) =
    { d with shared := d.shared.stopped, stage := .ended true } := by
  simp only [step, h]

/-- A wait that has ended does nothing. -/
theorem step_own_of_ended (h : d.stage = .ended drained) : d.step deadline (.own clock) = d := by
  simp only [step, h]

/-! ### What the polls have seen

The polls are kept in the state, though the wait itself looks at its last one only. What the wait
knows is what they decide: this is kept by every turn, and with it that the last poll was needed,
since a wait that knows how it ends does not poll any more. -/

/-- The polls of a wait decide what is known of its end, and the last of them has decided it. -/
structure Follows (deadline : Nat) (d : Drain) : Prop where
  /-- what the polls decide is what the wait knows -/
  verdict : waitVerdict? deadline d.polls = d.stage.verdict?
  /-- and without the last of them they decide nothing -/
  before : waitVerdict? deadline d.polls.dropLast = none

/-- A wait that begins has not polled and knows nothing. -/
theorem follows_new (deadline : Nat) (s : Shared) : (new s).Follows deadline :=
  ⟨rfl, rfl⟩

/-- **Every turn keeps it.** Another caller changes neither the polls nor the stage; of its own
steps only the first kind polls, and then nothing was decided before. -/
theorem Follows.step (h : d.Follows deadline) (turn : Turn) :
    (d.step deadline turn).Follows deadline := by
  cases turn with
  | other move => exact ⟨h.verdict, h.before⟩
  | own clock =>
    cases hstage : d.stage with
    | polling =>
      have hnone : waitVerdict? deadline d.polls = none := by
        rw [h.verdict, hstage]
        rfl
      rw [step_own_of_polling hstage]
      refine ⟨?_, ?_⟩
      · rw [look, waitVerdict?_concat, hnone, Option.none_or, Stage.verdict?_ofVerdict]
      · rw [look, List.dropLast_concat, hnone]
    | idle =>
      rw [step_own_of_idle hstage]
      refine ⟨?_, h.before⟩
      rw [h.verdict, hstage]
      rfl
    | ended drained =>
      rw [step_own_of_ended hstage]
      exact h

/-- **The polls decide after every run** what they decide after each turn. -/
theorem Follows.run (h : d.Follows deadline) (turns : List Turn) :
    (d.run deadline turns).Follows deadline := by
  induction turns generalizing d with
  | nil => exact h
  | cons turn turns ih => exact ih (h.step turn)

/-- A wait that fails has seen a call in flight with its last poll, and the deadline passed. -/
theorem Follows.last_of_ended_false (h : d.Follows deadline) (hended : d.stage = .ended false) :
    ∃ front last, d.polls = front ++ [last] ∧ last.inFlight ≠ 0 ∧ deadline ≤ last.clock := by
  have hverdict := h.verdict
  have hbefore := h.before
  rw [hended] at hverdict
  rcases List.eq_nil_or_concat' d.polls with hnil | ⟨front, last, hpolls⟩
  · rw [hnil] at hverdict
    cases hverdict
  · rw [hpolls, List.dropLast_concat] at hbefore
    rw [hpolls, waitVerdict?_concat, hbefore, Option.none_or] at hverdict
    obtain ⟨hcalls, hlate⟩ := Poll.verdict?_eq_false_iff.mp hverdict
    exact ⟨front, last, hpolls, hcalls, hlate⟩

/-! ### What a wait does

A wait has one step that touches the lifecycle, and it comes at most once. So a run of the wait and
the others is a run of the others alone, or it is two such runs with that step in between. -/

/-- A wait that has ended does nothing. -/
theorem run_of_ended (h : d.stage = .ended drained) (turns : List Turn) :
    d.run deadline turns = { d with shared := d.shared.run (others turns) } := by
  induction turns generalizing d with
  | nil => rfl
  | cons turn turns ih =>
    rw [run_cons]
    cases turn with
    | other move => exact ih h
    | own clock =>
      rw [step_own_of_ended h]
      exact ih h

/-- **A wait leaves the lifecycle to the others** until it says that the server has stopped. -/
theorem shared_run_of_ne (h : (d.run deadline turns).stage ≠ .ended true) :
    (d.run deadline turns).shared = d.shared.run (others turns) := by
  induction turns generalizing d with
  | nil => rfl
  | cons turn turns ih =>
    rw [run_cons] at h ⊢
    rw [ih h]
    cases turn with
    | other move => rfl
    | own clock =>
      cases hstage : d.stage with
      | polling =>
        rw [step_own_of_polling hstage]
        rfl
      | idle =>
        rw [step_own_of_idle hstage, run_of_ended rfl] at h
        exact absurd rfl h
      | ended drained =>
        rw [step_own_of_ended hstage]
        rfl

/-- **It says so in one step of its own**, and then leaves the lifecycle to the others again. -/
theorem exists_stop_of_ended_true (hstart : d.stage ≠ .ended true)
    (hended : (d.run deadline turns).stage = .ended true) :
    ∃ front clock back, turns = front ++ .own clock :: back ∧
      (d.run deadline front).stage = .idle ∧
      (d.run deadline turns).shared =
        ((d.run deadline front).shared.stopped).run (others back) := by
  induction turns generalizing d with
  | nil => exact absurd hended hstart
  | cons turn turns ih =>
    by_cases hmid : (d.step deadline turn).stage = .ended true
    · cases turn with
      | other move => exact absurd hmid hstart
      | own clock =>
        cases hstage : d.stage with
        | polling =>
          rw [step_own_of_polling hstage] at hmid
          exact absurd hmid (Stage.ofVerdict_ne _)
        | idle =>
          refine ⟨[], clock, turns, rfl, hstage, ?_⟩
          rw [run_cons, step_own_of_idle hstage, run_of_ended rfl]
          rfl
        | ended drained =>
          rw [step_own_of_ended hstage] at hmid
          exact absurd hmid hstart
    · obtain ⟨front, clock, back, rfl, hidle, hshared⟩ := ih hmid hended
      exact ⟨turn :: front, clock, back, rfl, hidle, hshared⟩

/-! ### That it ends

A wait that is given turns of its own either polls or ends. So if it has not ended, it has polled as
often as it was given a turn; and if its clock keeps the interval, only so many polls fit before the
deadline. Nothing can be said of a wait that is given no turns, or whose clock stands still. -/

/-- A wait that goes on has taken one step for each poll. -/
theorem ownSteps_eq (hstart : ∀ drained, d.stage ≠ .ended drained)
    (h : ∀ drained, (d.run deadline turns).stage ≠ .ended drained) :
    (d.run deadline turns).polls.length = d.polls.length + ownSteps turns := by
  induction turns generalizing d with
  | nil => rfl
  | cons turn turns ih =>
    rw [run_cons] at h ⊢
    have hgoes : ∀ drained, (d.step deadline turn).stage ≠ .ended drained := by
      intro drained hended
      rw [run_of_ended hended] at h
      exact h drained hended
    rw [ih hgoes h]
    cases turn with
    | other move => rfl
    | own clock =>
      cases hstage : d.stage with
      | polling =>
        rw [step_own_of_polling hstage, look, List.length_append, ownSteps, List.length_singleton]
        omega
      | idle =>
        rw [step_own_of_idle hstage] at hgoes
        exact absurd rfl (hgoes true)
      | ended drained => exact absurd hstage (hstart drained)

end Drain

/-- From one poll to the next the clock advances by the interval at least. -/
def Paced (polls : List Poll) : Prop :=
  polls.IsChain fun earlier later => earlier.clock + pollInterval ≤ later.clock

section

variable {deadline : Nat} {polls : List Poll}

/-- From the first poll to the last the clock advances by the interval for each poll in between. -/
theorem Paced.clock_add_le {poll : Poll} (h : Paced (poll :: polls)) :
    poll.clock + polls.length * pollInterval ≤ ((poll :: polls).getLast (by simp)).clock := by
  induction polls generalizing poll with
  | nil => simp
  | cons next polls ih =>
    obtain ⟨hnext, hrest⟩ := List.isChain_cons_cons.mp h
    have hlast := ih hrest
    rw [List.getLast_cons (by simp), List.length_cons, Nat.add_mul]
    omega

/-- **Polls that leave the end of a wait open are few**, since they come before the deadline and the
clock moves on by an interval from each to the next. -/
theorem Paced.length_le (h : Paced polls) (hopen : waitVerdict? deadline polls = none) :
    polls.length ≤ deadline / pollInterval + 1 := by
  cases polls with
  | nil => exact Nat.zero_le _
  | cons poll polls =>
    rw [waitVerdict?_eq_findSome?, List.findSome?_eq_none_iff] at hopen
    have hlast := Poll.clock_lt_of_verdict?_eq_none (hopen _ (List.getLast_mem (by simp)))
    have hadvance := h.clock_add_le
    rw [List.length_cons, Nat.add_le_add_iff_right, Nat.le_div_iff_mul_le (by decide)]
    omega

end

/-! ### Without other callers

The lifecycle itself has a wait, in which nobody else moves and the clock advances by the interval.
It is compared with a run of turns of its own, chosen so that the clock shows what it shows there.
The induction is that of `idleVerdict`, over the time that is left before the deadline. -/

/-- One more poll keeps the interval if it comes late enough after the last one. -/
theorem Paced.concat {poll : Poll} (h : Paced polls)
    (hlast : ∀ earlier ∈ polls.getLast?, earlier.clock + pollInterval ≤ poll.clock) :
    Paced (polls ++ [poll]) := by
  refine List.isChain_append.mpr ⟨h, List.isChain_singleton poll, fun earlier hearlier later => ?_⟩
  rintro ⟨⟩
  exact hlast earlier hearlier

/-- While nobody else moves, a wait polls after every interval, and its end is that of an idle
wait. -/
theorem Drain.exists_run_idle {d : Drain} {inFlight : UInt64} (deadline clock : Nat)
    (hstage : d.stage = .polling) (hcount : d.shared.inFlight = inFlight) (hpaced : Paced d.polls)
    (hlast : ∀ poll ∈ d.polls.getLast?, poll.clock + pollInterval ≤ clock) :
    ∃ clocks : List Nat,
      let after := d.run deadline (clocks.map .own)
      after.stage = .ended (idleVerdict inFlight deadline clock) ∧ Paced after.polls ∧
        after.shared = if idleVerdict inFlight deadline clock then d.shared.stopped
          else d.shared := by
  have hlook : d.step deadline (.own clock) = d.look deadline clock := step_own_of_polling hstage
  have hpolls : Paced (d.look deadline clock).polls := hpaced.concat hlast
  induction clock using idleVerdict.induct inFlight deadline generalizing d with
  | case1 clock drained hpoll =>
    have hended : (d.look deadline clock).stage = .ofVerdict (some drained) := by
      rw [look, hcount, hpoll]
    rw [idleVerdict_of_some hpoll]
    cases drained with
    | false =>
      refine ⟨[clock], ?_⟩
      simp only [List.map_cons, List.map_nil, run_cons, hlook]
      exact ⟨hended, hpolls, rfl⟩
    | true =>
      -- one more step says that the server has stopped
      refine ⟨[clock, clock], ?_⟩
      simp only [List.map_cons, List.map_nil, run_cons, hlook, step_own_of_idle hended]
      exact ⟨rfl, hpolls, rfl⟩
  -- this one does not, and the next comes after the interval
  | case2 clock hpoll ih =>
    have hgoes : (d.look deadline clock).stage = .polling := by
      rw [look, hcount, hpoll]
      rfl
    have hlast' : ∀ poll ∈ (d.look deadline clock).polls.getLast?,
        poll.clock + pollInterval ≤ clock + pollInterval := by
      intro poll hmem
      rw [look, List.getLast?_concat] at hmem
      obtain rfl := Option.some.inj hmem
      exact Nat.le_refl _
    obtain ⟨clocks, hclocks⟩ := ih hgoes hcount hpolls hlast' (step_own_of_polling hgoes)
      (hpolls.concat hlast')
    refine ⟨clock :: clocks, ?_⟩
    rw [idleVerdict_of_none hpoll]
    simp only [List.map_cons, run_cons, hlook]
    exact hclocks

/-! ## The contract

The contract of a wait is stated for any state in which it begins and any turns after that. It says
how the wait ends, by its polls; what it leaves to the others; and that it does end. The contract of
the count is stated for what the callers have done altogether, before the wait and during it. -/

/-- What comes of a wait that has begun at a state, after turns of its own and of others. -/
structure DrainContract (deadline : Nat) (start : Shared) (turns : List Turn) (d : Drain) :
    Prop where
  /-- the drain is complete exactly if a poll sees no call in flight, and none before it comes as
  late as the deadline -/
  complete_iff : d.stage = .idle ∨ d.stage = .ended true ↔
    ∃ front poll back, d.polls = front ++ poll :: back ∧ poll.inFlight = 0 ∧
      ∀ earlier ∈ front, earlier.clock < deadline
  /-- the next step of the wait says so -/
  reports : d.stage = .idle → ∀ clock, (d.step deadline (.own clock)).stage = .ended true
  /-- a wait that fails has seen a call in flight with its last poll, and the deadline passed -/
  failed : d.stage = .ended false →
    ∃ front last, d.polls = front ++ [last] ∧ last.inFlight ≠ 0 ∧ deadline ≤ last.clock
  /-- whatever has come of it but that the drain is complete, everything is as the others alone have
  made it -/
  untouched : d.stage ≠ .ended true → d.shared = start.run (others turns)
  /-- if the drain is complete, the server has stopped by one step of the wait, which leaves the
  count as it is; before that step and after it, everything is as the others have made it -/
  stopped : d.stage = .ended true → ∃ front clock back, turns = front ++ .own clock :: back ∧
    let seen := start.run (others front)
    seen.stopped.health = .stopped ∧ seen.stopped.inFlight = seen.inFlight ∧
      d.shared = seen.stopped.run (others back)
  /-- if the clock keeps the interval between polls, the wait ends within so many steps -/
  ends : Paced d.polls → deadline / pollInterval + 3 ≤ ownSteps turns →
    ∃ drained, d.stage = .ended drained

/-- **A wait ends as its polls say, and does nothing else.** Whatever turns are taken, in whatever
order, the fields of the contract hold of where they lead. -/
theorem drainContract (deadline : Nat) (start : Shared) (turns : List Turn) :
    DrainContract deadline start turns ((Drain.new start).run deadline turns) where
  complete_iff := by
    have hfollows := (Drain.follows_new deadline start).run turns
    rw [← waitVerdict?_eq_true_iff, hfollows.verdict]
    rcases ((Drain.new start).run deadline turns).stage with _ | _ | _ <;> simp [Stage.verdict?]
  reports := by
    intro hidle clock
    rw [Drain.step_own_of_idle hidle]
  failed := ((Drain.follows_new deadline start).run turns).last_of_ended_false
  untouched := Drain.shared_run_of_ne
  stopped := by
    intro hended
    obtain ⟨front, clock, back, hturns, hidle, hshared⟩ :=
      Drain.exists_stop_of_ended_true Stage.noConfusion hended
    have hseen : ((Drain.new start).run deadline front).shared = start.run (others front) :=
      Drain.shared_run_of_ne fun htrue => Stage.noConfusion (hidle.symm.trans htrue)
    exact ⟨front, clock, back, hturns, rfl, rfl, hseen ▸ hshared⟩
  ends := by
    intro hpaced hsteps
    -- a wait that has not ended has polled once for each step, and all polls but the last came
    -- early
    refine Classical.byContradiction fun hgoes => ?_
    have hnot := not_exists.mp hgoes
    have hfollows := (Drain.follows_new deadline start).run turns
    have hpolls := Drain.ownSteps_eq (fun _ => Stage.noConfusion) hnot
    have hfew := Paced.length_le hpaced.dropLast hfollows.before
    rw [List.length_dropLast, hpolls] at hfew
    simp only [Drain.new, List.length_nil] at hfew
    omega

/-- **The count is exact during a wait too.** Either the wait has left the lifecycle alone, or it
has touched it once, where the count is not. -/
theorem countContract (before : List Move) (deadline : Nat) (turns : List Turn) :
    CountContract (before ++ others turns)
      ((Drain.new (Shared.new.run before)).run deadline turns).shared := by
  have hdrain := drainContract deadline (Shared.new.run before) turns
  by_cases hstage : ((Drain.new (Shared.new.run before)).run deadline turns).stage = .ended true
  · obtain ⟨front, clock, back, hturns, -, -, hshared⟩ := hdrain.stopped hstage
    have hothers : others turns = others front ++ others back := by
      rw [hturns, others_append]
      rfl
    rw [hshared, hothers, ← List.append_assoc, ← Shared.run_append]
    refine .of_counted (Shared.counted_run (Shared.counted_stopped
      (Shared.counted_run Shared.counted_new _)) _) ?_
    -- the step of the wait in between does not matter to the guards
    rw [Shared.guards_run_stopped, ← Shared.run_append]
    exact Shared.guards_run_add_released
  · rw [hdrain.untouched hstage, ← Shared.run_append]
    exact .of_counted (Shared.counted_run Shared.counted_new _) Shared.guards_run_add_released

/-- **The wait of a lifecycle that nobody shares is such a wait.** -/
theorem exists_run_wait (g : Guarded) (pending deadline : Nat) : ∃ clocks : List Nat,
    let d := (Drain.new ⟨g, pending⟩).run deadline (clocks.map .own)
    d.stage = .ended (g.wait deadline).2 ∧ d.shared = ⟨(g.wait deadline).1, pending⟩ ∧
      Paced d.polls := by
  obtain ⟨clocks, hstage, hpaced, hshared⟩ := Drain.exists_run_idle (d := .new ⟨g, pending⟩)
    deadline 0 rfl rfl List.isChain_nil (fun _ => nofun)
  refine ⟨clocks, hstage, ?_, hpaced⟩
  have hafter : (g.wait deadline).1 = { g with
      lifecycle := g.lifecycle.afterWait (idleVerdict g.lifecycle.inFlight deadline 0) } := rfl
  have hcount : (Drain.new ⟨g, pending⟩).shared.inFlight = g.lifecycle.inFlight := rfl
  rw [hshared, hafter, hcount]
  cases idleVerdict g.lifecycle.inFlight deadline 0 <;> rfl

/-- **Counting calls and draining are exact.** Let a wait begin after moves.

* The count is the number of guards that were taken and not released, if that fits, and it does not
  wrap when one of them is released.
* The wait ends as its polls say, does nothing to the lifecycle but to say in the end that the
  server has stopped, and ends if the clock keeps the interval between polls.
* Without other callers it is the wait of the lifecycle. -/
theorem draining_is_exact (before : List Move) (deadline : Nat) (turns : List Turn) :
    let start := Shared.new.run before
    let d := (Drain.new start).run deadline turns
    CountContract (before ++ others turns) d.shared ∧ DrainContract deadline start turns d ∧
      ∃ clocks : List Nat,
        let alone := (Drain.new start).run deadline (clocks.map .own)
        alone.stage = .ended (start.guarded.wait deadline).2 ∧
          alone.shared = ⟨(start.guarded.wait deadline).1, start.pending⟩ ∧ Paced alone.polls :=
  ⟨countContract before deadline turns, drainContract deadline _ turns,
    exists_run_wait _ _ deadline⟩

end Lifecycle

end ActionGateway
