import DutyRelay.Proofs.Building
import DutyRelay.Proofs.Progression

/-!
# Where the window comes from

Readers ask the window, and the window is filled over several ticks: some are aborted halfway, some see
nothing new, and epochs may be missed. This file traces each of the two schedules back to one answer of the
beacon node. The next schedule is made of the answer about the next epoch in the last completed refresh.
The current one is made of the same kind of answer in the completed refresh before it, if that was for the
epoch before; otherwise it is made of the answer about its duties in the last completed refresh.

## Contents
- `CurrentAnswer`, `Relay.Sourced`: the answers that a window is made of.
- `Completes.sourced_of_fetched`, `Completes.sourced`, `Run.sourced`: one refresh, and a whole run.
- `Sourced.answer_of_find?`: the schedule that answers a question.
- `window_sourced`: all that readers can learn is one answer about the epoch that they ask for.
- `patchy`: a run with failures, a quiet tick and a gap.
-/

namespace DutyRelay

namespace Relay

variable {relay : Relay} {state : State} {turns earlier : List Turn} {turn : Turn} {epoch last : Epoch}
  {current next : Schedule} {duties upcoming : List Assignment} {window : Window}

/-! ## The answers that a window is made of -/

/-- The answer that the current schedule is made of, after a refresh for an epoch in the last of the turns
that completed one. Either the refresh before it was for the epoch before, and what was answered about the
next epoch in that turn is handed on; or it was not, or there was none, and the answer is the one about the
duties of the epoch in the last turn. -/
inductive CurrentAnswer (earlier : List Turn) (turn : Turn) (epoch : Epoch)
    (assignments : List Assignment) : Prop
  | handedOn {previous before} (hprevious : earlier.getLast? = some previous)
      (hepoch : previous.epoch? = some before) (hnext : before + 1 = epoch)
      (hanswers : upcomingAnswers previous.talk = [(epoch, assignments)])
  | fetched (hgap : ∀ previous before, earlier.getLast? = some previous →
        previous.epoch? = some before → before + 1 ≠ epoch)
      (hanswers : dutyAnswers epoch turn.talk = [assignments])

/-- The window is made of these two answers, after a refresh for the epoch in the turn. -/
structure Sourced (relay : Relay) (earlier : List Turn) (turn : Turn) (epoch : Epoch)
    (duties upcoming : List Assignment) (window : Window) : Prop where
  committed : turn.epoch? = some epoch
  next_answer : upcomingAnswers turn.talk = [(epoch + 1, upcoming)]
  current_answer : CurrentAnswer earlier turn epoch duties
  built : ∃ current next, window = ⟨some current, some next⟩ ∧
    Schedule.build relay.length epoch duties = .ok current ∧
    Schedule.build relay.length (epoch + 1) upcoming = .ok next

/-- The last of the turns that completed a refresh is the one for the epoch on record. -/
theorem InStep.epoch_of_getLast? {completed : List Turn} {previous : Turn} {before : Epoch}
    (h : InStep completed state) (hprevious : completed.getLast? = some previous)
    (hepoch : previous.epoch? = some before) : state.progress.lastProcessed = some before := by
  obtain ⟨_, rfl⟩ := List.getLast?_eq_some_iff.mp hprevious
  rw [← h.last, committedEpochs, List.filterMap_append, List.filterMap_cons_some hepoch,
    List.filterMap_nil, List.getLast?_concat]

/-- The answers behind a completed refresh that has fetched the current schedule, since the refresh before it
was not for the epoch before. -/
theorem Completes.sourced_of_fetched {completed : List Turn}
    (h : relay.Completes turn epoch current next) (hinStep : InStep completed turn.before)
    (hfetched : turn.Fetched relay epoch current)
    (hgap : ∀ before, turn.before.progress.lastProcessed = some before → before + 1 ≠ epoch) :
    ∃ duties upcoming, relay.Sourced completed turn epoch duties upcoming turn.after.window := by
  obtain ⟨upcoming, hupcoming, hnext⟩ := h.prepared.upcoming
  obtain ⟨duties, hduties, hcurrent⟩ := hfetched
  refine ⟨duties, upcoming, h.epoch?, hupcoming, .fetched ?_ hduties,
    current, next, h.window, hcurrent, hnext⟩
  intro previous before hprevious hepoch
  exact hgap before (hinStep.epoch_of_getLast? hprevious hepoch)

/-- **The answers behind a completed refresh.** What the window was made of before matters only if its next
schedule becomes the current one. -/
theorem Completes.sourced {completed : List Turn} (h : relay.Completes turn epoch current next)
    (hstate : turn.before.Coherent relay.length) (hinStep : InStep completed turn.before)
    (hbefore : ∀ last, turn.before.progress.lastProcessed = some last →
      ∃ earlier previous duties upcoming, completed = earlier ++ [previous] ∧
        relay.Sourced earlier previous last duties upcoming turn.before.window) :
    ∃ duties upcoming, relay.Sourced completed turn epoch duties upcoming turn.after.window := by
  cases h.origin hstate with
  | first hfresh hfetched =>
    exact h.sourced_of_fetched hinStep hfetched fun _ hlast => absurd hlast hfresh.not_processed
  | skipped hsynced hgap hfetched =>
    refine h.sourced_of_fetched hinStep hfetched fun before hlast => ?_
    obtain rfl := hsynced.last_eq hlast
    exact Nat.ne_of_lt hgap
  | rotated hsynced hlast hwindow =>
    -- The answer behind the next schedule of that time is handed on.
    obtain ⟨earlier, previous, _, handed, hcompleted, hsourced⟩ := hbefore _ hsynced.lastProcessed
    obtain ⟨_, _, hpair, _, hbuild⟩ := hsourced.built
    rw [hpair] at hwindow
    cases hwindow
    rw [hlast] at hbuild
    obtain ⟨upcoming, hupcoming, hnext⟩ := h.prepared.upcoming
    refine ⟨handed, upcoming, h.epoch?, hupcoming, .handedOn ?_ hsourced.committed hlast ?_,
      current, next, h.window, hbuild, hnext⟩
    · rw [hcompleted, List.getLast?_concat]
    · rw [hsourced.next_answer, hlast]

/-- **The answers behind the window**, after every run in which a refresh was completed. -/
theorem Run.sourced (hrun : relay.Run State.start turns state)
    (hlast : state.progress.lastProcessed = some last) :
    ∃ earlier turn duties upcoming, turns.filter Turn.commits = earlier ++ [turn] ∧
      relay.Sourced earlier turn last duties upcoming state.window := by
  refine hrun.along_commits
    (motive := fun completed state => ∀ last, state.progress.lastProcessed = some last →
      ∃ earlier turn duties upcoming, completed = earlier ++ [turn] ∧
        relay.Sourced earlier turn last duties upcoming state.window) ?_ ?_ ?_ last hlast
  · intro last hlast
    cases hlast
  · intro completed s t hst h last hlast
    rw [hst.window]
    exact h last (hst.lastProcessed.symm.trans hlast)
  · intro turns turn epoch current next hbefore hcompletes ih last hlast
    obtain rfl := Option.some.inj (hcompletes.lastProcessed.symm.trans hlast)
    obtain ⟨duties, upcoming, hsourced⟩ :=
      hcompletes.sourced hbefore.coherent hbefore.inStep ih
    exact ⟨_, turn, duties, upcoming, rfl, hsourced⟩

/-! ## What readers can learn -/

/-- A schedule that answers questions about an epoch is made of one answer about this epoch. -/
theorem Sourced.answer_of_find? {schedule : Schedule}
    (h : relay.Sourced earlier turn last duties upcoming window)
    (hfind : window.find? epoch = some schedule) :
    ∃ answer, (epoch, answer) ∈ [(last, duties), (last + 1, upcoming)] ∧
      Schedule.build relay.length epoch answer = .ok schedule := by
  obtain ⟨current, next, rfl, hcurrent, hnext⟩ := h.built
  obtain ⟨rfl, hheld⟩ := Window.find?_eq_some hfind
  rcases hheld with hheld | hheld
  · cases hheld
    rw [Schedule.epoch_of_build hcurrent]
    exact ⟨duties, List.mem_cons_self, hcurrent⟩
  · cases hheld
    rw [Schedule.epoch_of_build hnext]
    exact ⟨upcoming, List.mem_cons_of_mem _ List.mem_cons_self, hnext⟩

/-- **All that readers can learn comes from one answer about the epoch that they ask for.** Once a refresh
has been completed, whatever the nodes reply, the next schedule amounts to the answer about the next epoch
in the last turn that completed one, and the current schedule amounts to that in the turn before, if it was
for the epoch before, and otherwise to the answer about the duties of its epoch in the last turn. Readers
see the same window. So a proposer that a reader is given has claimed the slot in this one answer, and a
key stands in it next to a slot of its validator: nothing comes from any other turn, and answers for two
epochs are not mixed. -/
theorem window_sourced (hrun : relay.Run State.start turns state)
    (hlast : state.progress.lastProcessed = some last) :
    ∃ earlier turn duties upcoming, turns.filter Turn.commits = earlier ++ [turn] ∧
      relay.Sourced earlier turn last duties upcoming state.window ∧
      state.broadcast.value = state.window ∧
      (∀ epoch slot validator, state.window.lookup? epoch slot = some validator →
        ∃ answer, (epoch, answer) ∈ [(last, duties), (last + 1, upcoming)] ∧
          ∃ assignment ∈ answer, assignment.validator = validator ∧ slot ∈ assignment.slots) ∧
      ∀ epoch validator key, state.window.pubkey? epoch validator = some key →
        ∃ answer, (epoch, answer) ∈ [(last, duties), (last + 1, upcoming)] ∧
          ∃ assignment ∈ answer, assignment.validator = validator ∧ assignment.key = key ∧
            assignment.slots ≠ [] := by
  obtain ⟨earlier, turn, duties, upcoming, hturns, hsourced⟩ := hrun.sourced hlast
  refine ⟨earlier, turn, duties, upcoming, hturns, hsourced, hrun.coherent.epochs_agree.2.2.1, ?_, ?_⟩
  · intro epoch slot validator hlookup
    obtain ⟨schedule, hfind, hproposer⟩ := Option.bind_eq_some_iff.mp hlookup
    obtain ⟨answer, hanswer, hbuild⟩ := hsourced.answer_of_find? hfind
    exact ⟨answer, hanswer, Schedule.assignment_of_proposer? hbuild hproposer⟩
  · intro epoch validator key hpubkey
    obtain ⟨schedule, hfind, hkey⟩ := Option.bind_eq_some_iff.mp hpubkey
    obtain ⟨answer, hanswer, hbuild⟩ := hsourced.answer_of_find? hfind
    exact ⟨answer, hanswer, Schedule.assignment_of_pubkey? hbuild hkey⟩

/-- A refresh that fails when everything has been fetched, the same with other duties, a quiet tick, a
refresh after a gap, one that fails for want of an answer, and one for the epoch that follows. -/
def patchy : List Replies :=
  [{ repliesAt 64 10 20 with next := .error (.unavailable "execution node") }, repliesAt 64 1 2,
    repliesAt 70 30 40, repliesAt 230 7 8,
    { repliesAt 256 50 60 with duties := .error (.unavailable "beacon node") },
    { repliesAt 256 70 9 with duties := .ok [] }]

theorem patchy_sourced :
    ∃ state, standard.Run State.start (standard.enact State.start patchy) state ∧
      state.progress.lastProcessed = some 8 ∧
      committedEpochs (standard.enact State.start patchy) = [2, 7, 8] ∧
      (∃ earlier turn duties upcoming,
        (standard.enact State.start patchy).filter Turn.commits = earlier ++ [turn] ∧
        standard.Sourced earlier turn 8 duties upcoming state.window) ∧
      state.window.lookup? 8 256 = some 8 ∧ state.window.lookup? 9 288 = some 9 ∧
      state.window.lookup? 7 224 = none := by
  have hrun : standard.Run State.start (standard.enact State.start patchy) _ := enact_run patchy
  obtain ⟨earlier, turn, duties, upcoming, hturns, hsourced, _, _⟩ := window_sourced hrun rfl
  exact ⟨_, hrun, rfl, rfl, ⟨earlier, turn, duties, upcoming, hturns, hsourced⟩, rfl, rfl, rfl⟩

end Relay
end DutyRelay
