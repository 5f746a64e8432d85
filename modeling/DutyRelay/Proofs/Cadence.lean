import DutyRelay.Proofs.Run
import DutyRelay.Proofs.Timeline
import Mathlib.Data.Nat.Find
import Mathlib.Order.WellFounded

/-!
# The cadence of a run

A relay that runs waits between ticks, notices the stop between ticks only, and leaves what a tick came to to
the journal. With a timer that is never late this comes to ticks in a row: one after another without anything
in between, each from the state that the one before it left, and as many as begin before the stop. When each of
them begins depends on how long those before it took.

## Contents
- `repeated`, `repeated_succ`: steps in a row.
- `Row`: steps to be taken with a party; `Row.reached`, `Row.lasting`, `Row.beginning`, `Row.ending`.
- `Row.exists_count`: as many steps as begin before the stop.
- `Row.every_exact`: steps that are due one period apart are steps in a row.
- `ticking`, `ticks_run`: ticks in a row are a run.
- `play_probe`, `play_running`: the two parts of a run; `run_cadence`: a probe and then ticks in a row.
-/

namespace DutyRelay

namespace Relay

open Dialogue

variable {J : Interface} {σ τ : Type}

/-! ## Steps in a row -/

/-- So many steps in a row, each from where the one before it has led. -/
def repeated (step : σ → Dialogue J σ) : Nat → σ → Dialogue J σ
  | 0, state => pure state
  | n + 1, state => (repeated step n state).bind step

/-- The first step may be set apart as well as the last. -/
theorem repeated_succ (step : σ → Dialogue J σ) (n : Nat) (state : σ) :
    repeated step (n + 1) state = (step state).bind (repeated step n) := by
  induction n with
  | zero => exact (Dialogue.bind_done (step state)).symm
  | succ n ih =>
    show (repeated step (n + 1) state).bind step = _
    rw [ih, Dialogue.bind_assoc]
    rfl

/-- Steps that are to be taken one after another, with a party to ask, and where both begin. -/
structure Row (J : Interface) (σ τ : Type) where
  step : σ → Dialogue J σ
  party : (query : J.Query) → τ → J.Reply query × τ
  state : σ
  partyState : τ

namespace Row

variable {row : Row J σ τ} {period stop first due now : Nat}

/-- So many steps carried out in a row. -/
def reached (row : Row J σ τ) (n : Nat) : Played τ σ :=
  (repeated row.step n row.state).play row.party row.partyState

/-- Step `k`, carried out after the steps before it. -/
def carried (row : Row J σ τ) (k : Nat) : Played τ σ :=
  (row.step (row.reached k).value).play row.party (row.reached k).state

/-- What is said in step `k`, and when, if it begins at `begun`. -/
def timeline (row : Row J σ τ) (k begun : Nat) : List (Nat × Exchange J) :=
  (row.step (row.reached k).value).timeline .exact row.party (row.reached k).state begun

/-- How long step `k` takes. -/
def lasting (row : Row J σ τ) (k : Nat) : Nat := ((row.carried k).elapsed .exact).nanos

/-- When step `k` begins: the first one at a given time, and every other one a period after the one before it,
or as soon as that one is over if this is later. -/
def beginning (row : Row J σ τ) (period first : Nat) : Nat → Nat
  | 0 => first
  | k + 1 => row.beginning period first k + max period (row.lasting k)

/-- When so many steps are over. Without any it is `now`. -/
def ending (row : Row J σ τ) (period now first : Nat) : Nat → Nat
  | 0 => now
  | k + 1 => row.beginning period first k + row.lasting k

theorem beginning_lt_succ (hperiod : 0 < period) (k : Nat) :
    row.beginning period first k < row.beginning period first (k + 1) := by
  have hmax : period ≤ max period (row.lasting k) := Nat.le_max_left _ _
  show _ < row.beginning period first k + max period (row.lasting k)
  omega

/-- **As many steps as begin before the stop.** -/
theorem exists_count (row : Row J σ τ) (first stop : Nat) (hperiod : 0 < period) :
    ∃ n, ∀ k, k < n ↔ row.beginning period first k < stop := by
  have hmono : StrictMono (row.beginning period first) :=
    strictMono_nat_of_lt_succ fun k => beginning_lt_succ hperiod k
  have hover : ∃ k, stop ≤ row.beginning period first k := ⟨stop, hmono.le_apply⟩
  refine ⟨Nat.find hover, fun k => ?_⟩
  rw [Nat.lt_find_iff]
  constructor
  · intro h
    exact Nat.lt_of_not_le (h k (Nat.le_refl k))
  · intro hlt m hm
    have hle : row.beginning period first m ≤ row.beginning period first k := hmono.monotone hm
    omega

/-! ## The row from the second step on -/

/-- The steps that are left once the first one is taken. -/
def rest (row : Row J σ τ) : Row J σ τ :=
  { row with state := (row.carried 0).value, partyState := (row.carried 0).state }

theorem reached_succ (row : Row J σ τ) (k : Nat) :
    (row.reached (k + 1)).value = (row.rest.reached k).value ∧
      (row.reached (k + 1)).state = (row.rest.reached k).state := by
  unfold reached
  rw [repeated_succ, play_bind]
  exact ⟨rfl, rfl⟩

theorem timeline_succ (row : Row J σ τ) (k begun : Nat) :
    row.timeline (k + 1) begun = row.rest.timeline k begun := by
  obtain ⟨hvalue, hstate⟩ := row.reached_succ k
  unfold timeline
  rw [hvalue, hstate]
  rfl

theorem lasting_succ (row : Row J σ τ) (k : Nat) : row.lasting (k + 1) = row.rest.lasting k := by
  obtain ⟨hvalue, hstate⟩ := row.reached_succ k
  unfold lasting carried
  rw [hvalue, hstate]
  rfl

theorem beginning_succ (row : Row J σ τ) (k : Nat) :
    row.beginning period first (k + 1) =
      row.rest.beginning period (row.beginning period first 1) k := by
  induction k with
  | zero => rfl
  | succ k ih =>
    show row.beginning period first (k + 1) + max period (row.lasting (k + 1)) = _
    rw [ih, row.lasting_succ]
    rfl

theorem ending_succ (row : Row J σ τ) (n : Nat) :
    row.ending period now first (n + 1) =
      row.rest.ending period (row.ending period now first 1) (row.beginning period first 1) n := by
  cases n with
  | zero => rfl
  | succ k =>
    show row.beginning period first (k + 1) + row.lasting (k + 1) = _
    rw [row.beginning_succ, row.lasting_succ]
    rfl

/-! ## Steps at fixed intervals -/

theorem every_of_le {step : σ → Dialogue J σ} {state : σ} (hperiod : 0 < period)
    (h : stop ≤ max now due) :
    every .exact period hperiod stop step due now state =
      (pause ⟨stop - now⟩).bind fun _ => pure state := by
  rw [every]
  simp only [Timer.notice_exact]
  rw [if_neg (by omega)]
  rfl

theorem every_of_lt {step : σ → Dialogue J σ} {state : σ} (hperiod : 0 < period)
    (h : max now due < stop) :
    every .exact period hperiod stop step due now state =
      (pause ⟨max now due - now⟩).bind fun _ =>
        ((step state).timed .exact).bind fun out =>
          every .exact period hperiod stop step (max now due + period) (max now due + out.2.nanos) out.1 := by
  rw [every]
  simp only [Timer.notice_exact]
  rw [if_pos h, Timer.nextDue_exact (Nat.le_max_right now due)]
  rfl

/-- Work that begins at `now` comes to the same as so many steps of the row: its value and the state of the party
are theirs, what is said is what they say, each from where it begins, and it lasts until the stop, or until they
are over if this is later. -/
structure Keeps (row : Row J σ τ) (period stop first now n : Nat) (work : Dialogue J σ) : Prop where
  value : (work.play row.party row.partyState).value = (row.reached n).value
  state : (work.play row.party row.partyState).state = (row.reached n).state
  timeline : work.timeline .exact row.party row.partyState now =
    (List.range n).flatMap fun k => row.timeline k (row.beginning period first k)
  elapsed : now + ((work.play row.party row.partyState).elapsed .exact).nanos =
    max stop (row.ending period now first n)

theorem taken_exact (span : Span) : Timer.exact.taken span = span := by
  unfold Timer.taken
  rw [Timer.notice_exact]

theorem elapsed_pause {party : (query : J.Query) → τ → J.Reply query × τ} {s : τ} (span : Span) :
    (((pause span : Dialogue J Unit).play party s).elapsed .exact).nanos = span.nanos := by
  rw [Played.elapsed_nanos]
  simp [pause, play, taken_exact]

theorem elapsed_pure {party : (query : J.Query) → τ → J.Reply query × τ} {s : τ} (value : σ) :
    (((pure value : Dialogue J σ).play party s).elapsed .exact).nanos = 0 := rfl

/-- Without any step there is nothing but the pause until the stop. -/
theorem Keeps.nil : row.Keeps period stop first now 0 ((pause ⟨stop - now⟩).bind fun _ => pure row.state) where
  value := rfl
  state := rfl
  timeline := rfl
  elapsed := by
    rw [elapsed_bind, elapsed_pause, elapsed_pure]
    show now + (stop - now + 0) = max stop now
    omega

/-- After a pause and the first step, the row goes on with the steps that are left. -/
theorem Keeps.cons {n : Nat} {later : σ × Span → Dialogue J σ} (hnow : now ≤ first)
    (h : row.rest.Keeps period stop (row.beginning period first 1) (first + row.lasting 0) n
      (later ((row.carried 0).value, (row.carried 0).elapsed .exact))) :
    row.Keeps period stop first now (n + 1)
      ((pause ⟨first - now⟩).bind fun _ => ((row.step row.state).timed .exact).bind later) where
  value := by
    show (((row.step row.state).timed .exact).bind later |>.play row.party row.partyState).value = _
    rw [play_bind, play_timed, (row.reached_succ n).1]
    exact h.value
  state := by
    show (((row.step row.state).timed .exact).bind later |>.play row.party row.partyState).state = _
    rw [play_bind, play_timed, (row.reached_succ n).2]
    exact h.state
  timeline := by
    have hfirst : now + (Timer.exact.taken ⟨first - now⟩).nanos = first := by
      rw [taken_exact]
      show now + (first - now) = first
      omega
    show (((row.step row.state).timed .exact).bind later).timeline .exact row.party row.partyState
      (now + (Timer.exact.taken ⟨first - now⟩).nanos) = _
    rw [hfirst, timeline_bind, timeline_timed, play_timed, List.range_succ_eq_map, List.flatMap_cons,
      List.flatMap_map]
    have hrest : ∀ k, row.timeline (k + 1) (row.beginning period first (k + 1)) =
        row.rest.timeline k (row.rest.beginning period (row.beginning period first 1) k) := by
      intro k
      rw [row.timeline_succ, row.beginning_succ]
    simp only [Nat.succ_eq_add_one, hrest]
    exact congrArg (_ ++ ·) h.timeline
  elapsed := by
    have htime : ((((pause ⟨first - now⟩).bind fun _ => ((row.step row.state).timed .exact).bind later).play
        row.party row.partyState).elapsed .exact).nanos = (first - now) + (row.lasting 0 +
          (((later ((row.carried 0).value, (row.carried 0).elapsed .exact)).play row.party
            (row.carried 0).state).elapsed .exact).nanos) := by
      rw [elapsed_bind, elapsed_pause, elapsed_bind, play_timed]
      rfl
    have hrest : first + row.lasting 0 +
        (((later ((row.carried 0).value, (row.carried 0).elapsed .exact)).play row.party
          (row.carried 0).state).elapsed .exact).nanos =
        max stop (row.rest.ending period (first + row.lasting 0) (row.beginning period first 1) n) :=
      h.elapsed
    have hending : row.ending period now first (n + 1) =
        row.rest.ending period (first + row.lasting 0) (row.beginning period first 1) n := row.ending_succ n
    rw [htime, hending, ← hrest]
    omega

/-- **Steps at fixed intervals are steps in a row**, as many as begin before the stop. -/
theorem every_exact {n : Nat} (hperiod : 0 < period)
    (hn : ∀ k, k < n ↔ row.beginning period (max now due) k < stop) :
    row.Keeps period stop (max now due) now n
      (every .exact period hperiod stop row.step due now row.state) := by
  -- Each turn of the loop takes one step off the row. What is due and what time it is change, but only the
  -- later of the two counts, and that is when the next step of the row begins.
  induction n generalizing row due now with
  | zero =>
    have hstop : ¬ max now due < stop := fun h => Nat.not_lt_zero 0 ((hn 0).mpr h)
    rw [every_of_le hperiod (Nat.le_of_not_lt hstop)]
    exact .nil
  | succ n ih =>
    have hbegun : max now due < stop := (hn 0).mp (Nat.succ_pos n)
    rw [every_of_lt hperiod hbegun]
    refine .cons (Nat.le_max_left now due) ?_
    -- The next step begins a period after this one, or when this one is over.
    have hnext : max (max now due + row.lasting 0) (max now due + period) =
        row.beginning period (max now due) 1 := by
      show _ = max now due + max period (row.lasting 0)
      omega
    have hcount : ∀ k, k < n ↔
        row.rest.beginning period (max (max now due + row.lasting 0) (max now due + period)) k < stop := by
      intro k
      rw [hnext, ← row.beginning_succ, ← hn (k + 1)]
      omega
    have hrest := ih hcount
    rw [hnext] at hrest
    exact hrest

/-- What is said in a row of steps is what is said in each of them. -/
theorem said_repeated (row : Row J σ τ) (n : Nat) :
    (repeated row.step n row.state).said row.party row.partyState =
      (List.range n).flatMap fun k => (row.timeline k (row.beginning period first k)).map Prod.snd := by
  induction n with
  | zero => rfl
  | succ n ih =>
    show ((repeated row.step n row.state).bind row.step).said row.party row.partyState = _
    rw [said_bind, ih, List.range_succ, List.flatMap_append, List.flatMap_singleton]
    -- The times are dropped again, so it does not matter when the last step begins.
    unfold timeline
    rw [map_timeline]
    rfl

end Row

/-! ## The probe -/

variable {relay : Relay} {answer : Nodes.Answering J} {party : (query : J.Query) → τ → J.Reply query × τ}
  {s : τ} {state : State} {stop : Nat}

/-- What the probe comes to: the head, or the failure as one to start. -/
def probed : Outcome Slot → Outcome Slot
  | .error failure => .error (.startup ("cannot read chain head: " ++ failure.message))
  | .ok head => .ok head

/-- Besides its line in the journal the probe is a question for the head. -/
theorem play_probe (relay : Relay) (answer : Nodes.Answering J)
    (party : (query : J.Query) → τ → J.Reply query × τ) (s : τ) :
    ((relay.probe.via answer).play party s).value = probed ((answer .head).play party s).value ∧
      ((relay.probe.via answer).play party s).state = ((answer .head).play party s).state ∧
      ((relay.probe.via answer).play party s).pauses = ((answer .head).play party s).pauses := by
  show (((answer .head).bind _).play party s).value = _ ∧ (((answer .head).bind _).play party s).state = _ ∧
    (((answer .head).bind _).play party s).pauses = _
  rw [play_bind]
  cases ((answer .head).play party s).value with
  | error failure => exact ⟨rfl, rfl, List.append_nil _⟩
  | ok head => exact ⟨rfl, rfl, List.append_nil _⟩

theorem elapsed_probe :
    ((relay.probe.via answer).play party s).elapsed .exact = ((answer .head).play party s).elapsed .exact := by
  obtain ⟨_, _, hpauses⟩ := play_probe relay answer party s
  unfold Played.elapsed
  rw [hpauses]

theorem timeline_probe (now : Nat) :
    (relay.probe.via answer).timeline .exact party s now = (answer .head).timeline .exact party s now := by
  show ((answer .head).bind _).timeline .exact party s now = _
  rw [timeline_bind]
  cases ((answer .head).play party s).value with
  | error failure => exact List.append_nil _
  | ok head => exact List.append_nil _

/-! ## Ticks in a row -/

/-- A tick whose result is left to the journal. -/
def ticking (relay : Relay) (answer : Nodes.Answering J) (state : State) : Dialogue J State :=
  Prod.snd <$> (relay.tick state).via answer

/-- Ticks in a row are a run with as many turns. -/
theorem ticks_run (n : Nat) :
    ∃ turns, turns.length = n ∧
      relay.Run state turns ((repeated (relay.ticking answer) n state).play party s).value := by
  induction n with
  | zero => exact ⟨[], rfl, .refl⟩
  | succ n ih =>
    obtain ⟨turns, hlength, hrun⟩ := ih
    show ∃ turns, _ ∧ relay.Run state turns
      (((repeated (relay.ticking answer) n state).bind (relay.ticking answer)).play party s).value
    rw [play_bind]
    generalize ((repeated (relay.ticking answer) n state).play party s).value = before at hrun
    generalize ((repeated (relay.ticking answer) n state).play party s).state = t
    obtain ⟨talk, hleads⟩ := leads_play party (relay.ticking answer before) t
    obtain ⟨⟨result, after⟩, htick, heq⟩ := leads_map_iff.mp hleads
    obtain ⟨said, hsaid, _⟩ := leads_via_iff.mp htick
    refine ⟨turns ++ [⟨before, said, result, after⟩], by simp [hlength], ?_⟩
    show relay.Run state _ ((relay.ticking answer before).play party t).value
    rw [heq]
    exact hrun.tail hsaid

/-! ## The run -/

/-- What a run does once it knows what the probe came to and how long it took. -/
def running (relay : Relay) (answer : Nodes.Answering J) (stop : Nat) (state : State) :
    Outcome Slot × Span → Dialogue J (Outcome Unit × State)
  | (.error failure, _) => pure (.error failure, state)
  | (.ok _, spent) =>
    (every .exact relay.pollInterval.nanos relay.pollInterval_pos stop (relay.ticking answer) spent.nanos
      spent.nanos state).bind fun state => (note [stopLine state]).bind fun _ => pure (.ok (), state)

theorem run_eq :
    relay.run .exact answer stop state =
      ((relay.probe.via answer).timed .exact).bind (relay.running answer stop state) := by
  unfold run
  refine congrArg (((relay.probe.via answer).timed .exact).bind ·) (funext fun out => ?_)
  obtain ⟨outcome, spent⟩ := out
  cases outcome with
  | error failure => rfl
  | ok head => rfl

/-- The same after the probe: it goes on from the state that the probe has left, when the probe is over. -/
theorem play_run (relay : Relay) (answer : Nodes.Answering J)
    (party : (query : J.Query) → τ → J.Reply query × τ) (s : τ) (stop : Nat) (state : State) :
    let probe := (answer .head).play party s
    let rest := relay.running answer stop state (probed probe.value, probe.elapsed .exact)
    let work := relay.run .exact answer stop state
    (work.play party s).value = (rest.play party probe.state).value ∧
      (work.play party s).state = (rest.play party probe.state).state ∧
      work.timeline .exact party s 0 = (answer .head).timeline .exact party s 0 ++
        rest.timeline .exact party probe.state (probe.elapsed .exact).nanos ∧
      ((work.play party s).elapsed .exact).nanos =
        (probe.elapsed .exact).nanos + ((rest.play party probe.state).elapsed .exact).nanos := by
  intro probe rest work
  obtain ⟨hvalue, hstate, _⟩ := play_probe relay answer party s
  have hrest :
      relay.running answer stop state (((relay.probe.via answer).timed .exact).play party s).value = rest := by
    rw [play_timed]
    show relay.running answer stop state (((relay.probe.via answer).play party s).value,
      ((relay.probe.via answer).play party s).elapsed .exact) = _
    rw [hvalue, elapsed_probe]
  have hparty : (((relay.probe.via answer).timed .exact).play party s).state = probe.state := by
    rw [play_timed]
    exact hstate
  have helapsed :
      (((relay.probe.via answer).timed .exact).play party s).elapsed .exact = probe.elapsed .exact := by
    rw [play_timed]
    exact elapsed_probe
  have hwork : work = ((relay.probe.via answer).timed .exact).bind (relay.running answer stop state) := run_eq
  refine ⟨?_, ?_, ?_, ?_⟩
  · rw [hwork, play_bind, hrest, hparty]
  · rw [hwork, play_bind, hrest, hparty]
  · rw [hwork, timeline_bind, hrest, hparty, helapsed, timeline_timed, timeline_probe, Nat.zero_add]
  · rw [hwork, elapsed_bind, hrest, hparty, helapsed]

/-- Once the probe is over, what is left to do keeps to the row of ticks, and ends well. -/
theorem play_running (head : Slot) {spent : Span} {n : Nat}
    (hn : ∀ k, k < n ↔ Row.beginning ⟨relay.ticking answer, party, state, s⟩ relay.pollInterval.nanos
      spent.nanos k < stop) :
    let period := relay.pollInterval.nanos
    let row : Row J State τ := ⟨relay.ticking answer, party, state, s⟩
    let rest := relay.running answer stop state (.ok head, spent)
    (rest.play party s).value = (.ok (), (row.reached n).value) ∧
      (rest.play party s).state = (row.reached n).state ∧
      rest.timeline .exact party s spent.nanos =
        (List.range n).flatMap (fun k => row.timeline k (row.beginning period spent.nanos k)) ∧
      spent.nanos + ((rest.play party s).elapsed .exact).nanos =
        max stop (row.ending period spent.nanos spent.nanos n) := by
  intro period row rest
  have hcount : ∀ k, k < n ↔ row.beginning period (max spent.nanos spent.nanos) k < stop := by
    rw [Nat.max_self]
    exact hn
  have hkeeps := Row.every_exact relay.pollInterval_pos hcount
  rw [Nat.max_self] at hkeeps
  have hrest : rest = (every .exact period relay.pollInterval_pos stop row.step spent.nanos spent.nanos
      row.state).bind fun last => (note [stopLine last]).bind fun _ => pure (.ok (), last) := rfl
  -- The line in the journal at the end says nothing and takes no time.
  refine ⟨?_, ?_, ?_, ?_⟩
  · rw [hrest, play_bind, ← hkeeps.value]
    rfl
  · rw [hrest, play_bind, ← hkeeps.state]
    rfl
  · rw [hrest, timeline_bind, ← hkeeps.timeline]
    exact List.append_nil _
  · rw [hrest, elapsed_bind, ← hkeeps.elapsed]
    rfl

/-- **A run is a probe and then ticks in a row.** With a timer that is never late, and whatever the party replies
and however long each question takes:
- if the head cannot be read at first, the run fails with this and nothing else has happened;
- else the first tick begins when the probe is over, and every other one a period after the one before it, or
  as soon as that one is over if this is later. Exactly those are made that begin before the stop, each to its
  end. The state that is left, and all that is said, are those of so many ticks in a row, and each tick says at
  its own time what it says; and whatever the ticks came to, the run ends well, at the stop, or when the probe
  or the last tick is over if this is later. -/
theorem run_cadence (relay : Relay) (answer : Nodes.Answering J)
    (party : (query : J.Query) → τ → J.Reply query × τ) (s : τ) (stop : Nat) (state : State) :
    let probe := (answer .head).play party s
    let began := (probe.elapsed .exact).nanos
    let period := relay.pollInterval.nanos
    let row : Row J State τ := ⟨relay.ticking answer, party, state, probe.state⟩
    let work := relay.run .exact answer stop state
    let played := work.play party s
    match probe.value with
    | .error failure =>
      played.value = (.error (.startup ("cannot read chain head: " ++ failure.message)), state) ∧
        played.state = probe.state ∧
        work.timeline .exact party s 0 = (answer .head).timeline .exact party s 0 ∧
        (played.elapsed .exact).nanos = began
    | .ok _ =>
      ∃ n, (∀ k, k < n ↔ row.beginning period began k < stop) ∧
        played.value = (.ok (), ((repeated (relay.ticking answer) n state).play party probe.state).value) ∧
        played.state = ((repeated (relay.ticking answer) n state).play party probe.state).state ∧
        work.said party s =
          (answer .head).said party s ++ (repeated (relay.ticking answer) n state).said party probe.state ∧
        work.timeline .exact party s 0 = (answer .head).timeline .exact party s 0 ++
          (List.range n).flatMap (fun k => row.timeline k (row.beginning period began k)) ∧
        (played.elapsed .exact).nanos = max stop (row.ending period began began n) := by
  intro probe began period row work played
  obtain ⟨hvalue, hstate, htimeline, helapsed⟩ := play_run relay answer party s stop state
  split
  · rename_i failure hprobe
    rw [hprobe] at hvalue hstate htimeline helapsed
    exact ⟨hvalue, hstate, htimeline.trans (List.append_nil _), helapsed⟩
  · rename_i head hprobe
    rw [hprobe] at hvalue hstate htimeline helapsed
    obtain ⟨n, hn⟩ := row.exists_count began stop relay.pollInterval_pos
    obtain ⟨hlast, hparty, hticks, hover⟩ := play_running head hn
    have hsteps : work.timeline .exact party s 0 = (answer .head).timeline .exact party s 0 ++
        (List.range n).flatMap (fun k => row.timeline k (row.beginning period began k)) :=
      htimeline.trans (congrArg (_ ++ ·) hticks)
    refine ⟨n, hn, hvalue.trans hlast, hstate.trans hparty, ?_, hsteps, helapsed.trans hover⟩
    rw [← map_timeline work 0, hsteps, List.map_append, map_timeline, List.map_flatMap]
    exact congrArg (_ ++ ·) (row.said_repeated n).symm

/-- The head is in epoch 2. When it has been asked for twice, it cannot be read the next two times. -/
def faint : (query : Nodes.Query) → Nat → Outcome (Nodes.Value query) × Nat
  | .head, asked => (if asked = 2 ∨ asked = 3 then .error (.unavailable "beacon node") else .ok 64, asked + 1)
  | .upcoming, asked => (.ok (3, loneProposer 3 3), asked)
  | .duties epoch, asked => (.ok (loneProposer epoch epoch), asked)
  | .insert _, asked => (.ok true, asked)

/-- The second tick tries for its head until after the stop. It is finished, and there is no third one. -/
theorem faint_outlasts_stop :
    let answer := Nodes.retrying RetryPolicy.standard Nodes.direct
    let ticks := (repeated (standard.ticking answer) 2 State.start).play faint 1
    let played := (standard.run .exact answer (Span.ofSeconds 20).nanos State.start).play faint 0
    played.value = (.ok (), ticks.value) ∧ ticks.value.progress.lastProcessed = some 2 ∧ played.state = 5 ∧
      played.elapsed .exact = Span.ofSeconds 25 := by
  intro answer ticks played
  obtain ⟨n, hcount, hvalue, hstate, _, _, helapsed⟩ :=
    run_cadence standard answer faint 0 (Span.ofSeconds 20).nanos State.start
  -- The second tick begins after 10 s, and the third one would after 25 s.
  have hsecond : 1 < n := (hcount 1).mpr (by decide)
  have hthird : ¬ 2 < n := mt (hcount 2).mp (by decide)
  obtain rfl : n = 2 := by omega
  refine ⟨hvalue, rfl, hstate.trans rfl, Span.ext (helapsed.trans ?_)⟩
  decide +kernel

end Relay
end DutyRelay
