import Mathlib
import DutyRelay.Proofs.Via

/-!
# Work carried out in time

Questions and replies take no time here; pauses do. So once it is known when a piece of work begins, it is known
when each of its questions is put: after the pauses up to there. `Dialogue.timeline` writes the questions down
with these times, and one piece of work after another is one timeline after another, the second from where the
first is over.

## Contents
- `Played.elapsed_nanos`: the time taken is the sum of the pauses.
- `play_bind`, `elapsed_bind`: one piece of work after another; `play_timed`: work that knows its own time.
- `Dialogue.timeline`, `timeline_bind`, `timeline_timed`: what is said, and when.
- `Dialogue.said`, `said_bind`, `map_timeline`: what is said, whenever it is.
- `Event`, `Dialogue.events`, `events_bind`, `pauses_eq`: what is said and the pauses in between, in order.
-/

namespace DutyRelay

namespace Dialogue

variable {I : Interface} {α β σ : Type} {timer : Timer} {s : σ}
  {answer : (query : I.Query) → σ → I.Reply query × σ}

/-! ## The time taken -/

/-- The time taken is the sum of what the timer takes for each pause. -/
theorem Played.elapsed_nanos (played : Played σ α) :
    (played.elapsed timer).nanos = (played.pauses.map fun span => (timer.taken span).nanos).sum := by
  have hfrom : ∀ (pauses : List Span) (start : Span),
      (pauses.foldl (fun total span => total.plus (timer.taken span)) start).nanos =
        start.nanos + (pauses.map fun span => (timer.taken span).nanos).sum := by
    intro pauses
    induction pauses with
    | nil => intro start; rfl
    | cons span pauses ih =>
      intro start
      rw [List.foldl_cons, ih, List.map_cons, List.sum_cons]
      simp only [Span.plus]
      omega
  unfold Played.elapsed
  rw [hfrom]
  simp [Span.zero]

/-- One piece of work after another: the second goes on in the state that the first has left. -/
theorem play_bind (d : Dialogue I α) (f : α → Dialogue I β) :
    (d.bind f).play answer s =
      ⟨((f (d.play answer s).value).play answer (d.play answer s).state).value,
        ((f (d.play answer s).value).play answer (d.play answer s).state).state,
        (d.play answer s).lines ++ ((f (d.play answer s).value).play answer (d.play answer s).state).lines,
        (d.play answer s).pauses ++
          ((f (d.play answer s).value).play answer (d.play answer s).state).pauses⟩ := by
  induction d generalizing s with
  | done value => rfl
  | asking query next ih => exact ih _
  | noting lines rest ih => simp [bind, play, ih]
  | pausing span rest ih => simp [bind, play, ih]

theorem elapsed_bind (d : Dialogue I α) (f : α → Dialogue I β) :
    (((d.bind f).play answer s).elapsed timer).nanos = ((d.play answer s).elapsed timer).nanos +
      (((f (d.play answer s).value).play answer (d.play answer s).state).elapsed timer).nanos := by
  simp [Played.elapsed_nanos, play_bind]

/-- Work that knows its own time comes to its value with the time taken, and is carried out as before. -/
theorem play_timed (d : Dialogue I α) :
    (d.timed timer).play answer s =
      ⟨((d.play answer s).value, (d.play answer s).elapsed timer), (d.play answer s).state,
        (d.play answer s).lines, (d.play answer s).pauses⟩ := by
  -- The time counted so far goes along as `start`, so the claim is about every start at once.
  have hfrom : ∀ (s : σ) (start : Span), (d.timedFrom timer start).play answer s =
      ⟨((d.play answer s).value, start.plus ((d.play answer s).elapsed timer)), (d.play answer s).state,
        (d.play answer s).lines, (d.play answer s).pauses⟩ := by
    induction d with
    | done value =>
      intro s start
      rfl
    | asking query next ih =>
      intro s start
      exact ih _ _ start
    | noting lines rest ih =>
      intro s start
      simp only [timedFrom, play, ih]
      rfl
    | pausing span rest ih =>
      intro s start
      simp only [timedFrom, play, ih]
      congr 2
      ext
      simp only [Span.plus, Played.elapsed_nanos, List.map_cons, List.sum_cons]
      omega
  have hzero : ∀ span : Span, Span.zero.plus span = span := by
    intro span
    simp [Span.plus, Span.zero]
  unfold timed
  rw [hfrom, hzero]

/-! ## What is said, and when -/

/-- The questions with their replies, each with the time at which it is put, if the work begins at `now`. -/
def timeline (timer : Timer) (answer : (query : I.Query) → σ → I.Reply query × σ) :
    Dialogue I α → σ → (now : Nat) → List (Nat × Exchange I)
  | done _, _, _ => []
  | asking query next, s, now =>
    let out := answer query s
    (now, ⟨query, out.1⟩) :: (next out.1).timeline timer answer out.2 now
  | noting _ rest, s, now => rest.timeline timer answer s now
  | pausing span rest, s, now => rest.timeline timer answer s (now + (timer.taken span).nanos)

/-- **One timeline after another.** -/
theorem timeline_bind (d : Dialogue I α) (f : α → Dialogue I β) (now : Nat) :
    (d.bind f).timeline timer answer s now = d.timeline timer answer s now ++
      (f (d.play answer s).value).timeline timer answer (d.play answer s).state
        (now + ((d.play answer s).elapsed timer).nanos) := by
  induction d generalizing s now with
  | done value => rfl
  | asking query next ih => exact congrArg ((now, _) :: ·) (ih _ now)
  | noting lines rest ih => exact ih now
  | pausing span rest ih =>
    simp only [bind, timeline, play, ih]
    simp [Played.elapsed_nanos, Nat.add_assoc]

theorem timeline_timed (d : Dialogue I α) (now : Nat) :
    (d.timed timer).timeline timer answer s now = d.timeline timer answer s now := by
  have hfrom : ∀ (s : σ) (start : Span) (now : Nat),
      (d.timedFrom timer start).timeline timer answer s now = d.timeline timer answer s now := by
    induction d with
    | done value => intro s start now; rfl
    | asking query next ih => intro s start now; exact congrArg ((now, _) :: ·) (ih _ _ start now)
    | noting lines rest ih => intro s start now; exact ih s start now
    | pausing span rest ih => intro s start now; exact ih s _ _
  exact hfrom s Span.zero now

/-- The questions with their replies. -/
def said (answer : (query : I.Query) → σ → I.Reply query × σ) : Dialogue I α → σ → List (Exchange I)
  | done _, _ => []
  | asking query next, s =>
    let out := answer query s
    ⟨query, out.1⟩ :: (next out.1).said answer out.2
  | noting _ rest, s => rest.said answer s
  | pausing _ rest, s => rest.said answer s

theorem said_bind (d : Dialogue I α) (f : α → Dialogue I β) :
    (d.bind f).said answer s =
      d.said answer s ++ (f (d.play answer s).value).said answer (d.play answer s).state := by
  induction d generalizing s with
  | done value => rfl
  | asking query next ih => simp [bind, said, play, ih]
  | noting lines rest ih => exact ih
  | pausing span rest ih => exact ih

/-- When something is said makes no difference to what is said. -/
theorem map_timeline (d : Dialogue I α) (now : Nat) :
    (d.timeline timer answer s now).map Prod.snd = d.said answer s := by
  induction d generalizing s now with
  | done value => rfl
  | asking query next ih => simp [timeline, said, ih]
  | noting lines rest ih => exact ih now
  | pausing span rest ih => exact ih _

end Dialogue

/-! ## What happens, in order -/

/-- What others notice of a piece of work. -/
inductive Event (I : Interface) where
  | exchange (exchange : Exchange I)
  | pause (span : Span)

/-- The pause that an event is, if it is one. -/
def Event.pause? {I : Interface} : Event I → Option Span
  | exchange _ => none
  | pause span => some span

namespace Dialogue

variable {I : Interface} {α β σ : Type} {s : σ} {answer : (query : I.Query) → σ → I.Reply query × σ}

/-- The questions with their replies, and the pauses in between. -/
def events (answer : (query : I.Query) → σ → I.Reply query × σ) : Dialogue I α → σ → List (Event I)
  | done _, _ => []
  | asking query next, s =>
    let out := answer query s
    .exchange ⟨query, out.1⟩ :: (next out.1).events answer out.2
  | noting _ rest, s => rest.events answer s
  | pausing span rest, s => .pause span :: rest.events answer s

theorem events_bind (d : Dialogue I α) (f : α → Dialogue I β) :
    (d.bind f).events answer s =
      d.events answer s ++ (f (d.play answer s).value).events answer (d.play answer s).state := by
  induction d generalizing s with
  | done value => rfl
  | asking query next ih => simp [bind, events, play, ih]
  | noting lines rest ih => exact ih
  | pausing span rest ih => simp [bind, events, play, ih]

/-- The pauses are those among the events. -/
theorem pauses_eq (d : Dialogue I α) :
    (d.play answer s).pauses = (d.events answer s).filterMap Event.pause? := by
  induction d generalizing s with
  | done value => rfl
  | asking query next ih => exact ih _
  | noting lines rest ih => exact ih
  | pausing span rest ih => exact congrArg (span :: ·) ih

end Dialogue
end DutyRelay
