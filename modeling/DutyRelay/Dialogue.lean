import DutyRelay.Journal
import DutyRelay.Timer

/-!
# Dialogues

The relay works by asking others: the beacon node, the execution node, or a web server behind them. A
`Dialogue` is such a piece of work as data. It asks, goes on with whatever reply it gets, writes journal
lines and pauses, and in the end it has a value. Who replies, and how, is left open; so a statement
about a dialogue holds for every reply that the others may give.

## Contents
- `Interface`: what can be asked and what comes back.
- `Dialogue`, a lawful monad; `Dialogue.ask`, `Dialogue.note`, `Dialogue.pause`.
- `Dialogue.via`: the same work with every question answered by a dialogue of another interface.
- `Dialogue.timed`: the value together with the time that a timer takes for the pauses.
- `Dialogue.play`: the work carried out against a party with a state of its own; `Played.elapsed`.
-/

namespace DutyRelay

/-- What a party can be asked, and what it replies to each question. -/
structure Interface where
  Query : Type
  Reply : Query → Type

/-- Work that asks, reports and pauses before it has its value. -/
inductive Dialogue (I : Interface) (α : Type) : Type where
  | done (value : α)
  | asking (query : I.Query) (next : I.Reply query → Dialogue I α)
  | noting (lines : List Line) (rest : Dialogue I α)
  | pausing (span : Span) (rest : Dialogue I α)

namespace Dialogue

variable {I J : Interface} {α β γ σ : Type}

/-! ## Sequencing -/

/-- One piece of work after another. -/
def bind : Dialogue I α → (α → Dialogue I β) → Dialogue I β
  | done value, f => f value
  | asking query next, f => asking query fun reply => (next reply).bind f
  | noting lines rest, f => noting lines (rest.bind f)
  | pausing span rest, f => pausing span (rest.bind f)

instance : Monad (Dialogue I) where
  pure := done
  bind := bind

@[simp] theorem pure_eq_done (value : α) : (pure value : Dialogue I α) = done value := rfl

@[simp] theorem bind_eq_bind (d : Dialogue I α) (f : α → Dialogue I β) : d >>= f = d.bind f := rfl

theorem bind_done (d : Dialogue I α) : d.bind done = d := by
  induction d with
  | done value => rfl
  | asking query next ih => simp [bind, ih]
  | noting lines rest ih => simp [bind, ih]
  | pausing span rest ih => simp [bind, ih]

theorem bind_assoc (d : Dialogue I α) (f : α → Dialogue I β) (g : β → Dialogue I γ) :
    (d.bind f).bind g = d.bind fun a => (f a).bind g := by
  induction d with
  | done value => rfl
  | asking query next ih => simp [bind, ih]
  | noting lines rest ih => simp [bind, ih]
  | pausing span rest ih => simp [bind, ih]

instance : LawfulMonad (Dialogue I) := LawfulMonad.mk' _ bind_done (fun _ _ => rfl) bind_assoc

/-- Asks one question. -/
def ask (query : I.Query) : Dialogue I (I.Reply query) := asking query done

/-- Writes journal lines. -/
def note (lines : List Line) : Dialogue I Unit := noting lines (done ())

/-- Lets time pass. -/
def pause (span : Span) : Dialogue I Unit := pausing span (done ())

/-! ## Another party -/

/-- The same work where each question is answered by a dialogue with another party. -/
def via (answer : (query : I.Query) → Dialogue J (I.Reply query)) : Dialogue I α → Dialogue J α
  | done value => done value
  | asking query next => (answer query).bind fun reply => (next reply).via answer
  | noting lines rest => noting lines (rest.via answer)
  | pausing span rest => pausing span (rest.via answer)

/-- The value together with the time taken for the pauses, `start` included. -/
def timedFrom (timer : Timer) (start : Span) : Dialogue I α → Dialogue I (α × Span)
  | done value => done (value, start)
  | asking query next => asking query fun reply => (next reply).timedFrom timer start
  | noting lines rest => noting lines (rest.timedFrom timer start)
  | pausing span rest => pausing span (rest.timedFrom timer (start.plus (timer.taken span)))

/-- The value together with the time taken for the pauses. -/
def timed (timer : Timer) (d : Dialogue I α) : Dialogue I (α × Span) := d.timedFrom timer Span.zero

/-! ## Carrying out -/

/-- What is left when a dialogue has been carried out: its value, the state of the party that was
asked, the journal, and the pauses, one after another. -/
structure Played (σ α : Type) where
  value : α
  state : σ
  lines : List Line
  pauses : List Span

/-- The time that a timer takes for all the pauses. -/
def Played.elapsed (played : Played σ α) (timer : Timer) : Span :=
  played.pauses.foldl (fun total span => total.plus (timer.taken span)) Span.zero

/-- Carries out a dialogue with a party whose replies depend on a state of its own. -/
def play (answer : (query : I.Query) → σ → I.Reply query × σ) : Dialogue I α → σ → Played σ α
  | done value, s => ⟨value, s, [], []⟩
  | asking query next, s =>
    let out := answer query s
    (next out.1).play answer out.2
  | noting lines rest, s =>
    let later := rest.play answer s
    { later with lines := lines ++ later.lines }
  | pausing span rest, s =>
    let later := rest.play answer s
    { later with pauses := span :: later.pauses }

end Dialogue
end DutyRelay
