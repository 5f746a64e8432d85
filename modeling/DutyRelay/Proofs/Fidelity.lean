import DutyRelay.Proofs.Completion

/-!
# Readers are told what the execution node was told

The schedule of an epoch is published while it is the next one, and it is served as the current one later,
after duties have been fetched for it a second time. If epochs were missed, the current schedule was never
the next one at all. This file shows that readers still never look at a schedule other than the one that
was published for its epoch: a schedule made of newly fetched duties becomes current only where nothing was
published for the epoch.

## Contents
- `Faithful`, `Completes.faithful`, `Run.faithful`: published payloads against the window.
- `State.Serves`: the schedules that readers can look at.
- `served_as_published`: they are what was published, from then on.
- `forgotten`: an epoch of which nothing is known any more by the time it is current.
-/

namespace DutyRelay

namespace Relay

/-- Readers can look at the schedule, in the window itself or in the copy that was sent to them. -/
def State.Serves (state : State) (schedule : Schedule) : Prop :=
  state.window.Holds schedule ∨ state.broadcast.value.Holds schedule

variable {relay : Relay} {state : State} {turns : List Turn} {turn : Turn} {epoch : Epoch}
  {current next : Schedule} {payloads : List Payload} {p : Payload}

/-! ## Published payloads and the window -/

/-- The payloads fit the window: that of its next schedule is among them, and for the epoch of its current
schedule there is none but the payload of that schedule. -/
def Faithful (relay : Relay) (payloads : List Payload) (window : Window) : Prop :=
  ∀ current next, window = ⟨some current, some next⟩ →
    relay.calendar.payload next ∈ payloads ∧
    ∀ p ∈ payloads, p.epoch = current.epoch → p = relay.calendar.payload current

/-- A completed refresh publishes the next schedule. -/
theorem Completes.next_mem (h : relay.Completes turn epoch current next) :
    relay.calendar.payload next ∈ turn.payloads := by
  rw [h.payloads]
  exact List.mem_append_right _ List.mem_cons_self

/-- What a completed refresh publishes for its own epoch, if anything, is the current schedule. -/
theorem Completes.eq_of_epoch (h : relay.Completes turn epoch current next) (hp : p ∈ turn.payloads)
    (hepoch : p.epoch = epoch) : p = relay.calendar.payload current := by
  rw [h.payloads] at hp
  rcases List.mem_append.mp hp with hcurrent | hnext
  · cases hfirst : turn.before.progress.firstRun with
    | true => rw [hfirst] at hcurrent; exact List.mem_singleton.mp hcurrent
    | false => rw [hfirst] at hcurrent; cases hcurrent
  · obtain rfl := List.mem_singleton.mp hnext
    have hlater : (relay.calendar.payload next).epoch = epoch + 1 := h.prepared.epoch_next
    exact absurd (hlater.symm.trans hepoch) (Nat.succ_ne_self epoch)

/-- **A completed refresh keeps payloads and window in line.** Anything published earlier for its epoch was
published when this was the next epoch, and then the schedule of that time is the current one now. -/
theorem Completes.faithful (h : relay.Completes turn epoch current next)
    (hstate : turn.before.Coherent relay.length) (hordered : Ordered turn.before payloads)
    (hfaithful : relay.Faithful payloads turn.before.window) :
    relay.Faithful (payloads ++ turn.payloads) turn.after.window := by
  rw [h.window]
  rintro _ _ ⟨⟩
  refine ⟨List.mem_append_right _ h.next_mem, fun p hp hepoch => ?_⟩
  replace hepoch : p.epoch = epoch := hepoch.trans h.prepared.epoch_current
  rcases List.mem_append.mp hp with hearlier | hnow
  · obtain ⟨last, hlast, hle⟩ := hordered.bounded p hearlier
    cases h.origin hstate with
    | first hfresh => exact absurd hlast hfresh.not_processed
    | rotated hsynced _ hnext =>
      -- The current schedule has been the next one, so its payload is the one that was published.
      obtain ⟨_, _, hwindow, _⟩ := hsynced.window
      rw [hwindow] at hnext
      cases hnext
      have hpublished := (hfaithful _ _ hwindow).1
      exact hordered.eq_of_epoch hearlier hpublished (hepoch.trans h.prepared.epoch_current.symm)
    | skipped hsynced hgap =>
      -- Nothing that was published is for an epoch after the gap.
      obtain rfl := hsynced.last_eq hlast
      exact absurd (hepoch ▸ hle) (Nat.not_le_of_lt hgap)
  · exact h.eq_of_epoch hnow hepoch

/-- **What completed refreshes have published fits the window**, after every run. -/
theorem Run.faithful (hrun : relay.Run State.start turns state) :
    relay.Faithful (ledger turns) state.window := by
  refine hrun.along_commits
    (motive := fun completed state => relay.Faithful (completed.flatMap Turn.payloads) state.window)
    (fun _ _ hwindow => by cases hwindow) ?_ ?_
  · intro completed s t hst h
    rwa [hst.window]
  · intro turns turn epoch current next hbefore hcompletes ih
    rw [List.flatMap_append, List.flatMap_singleton]
    exact hcompletes.faithful hbefore.coherent hbefore.ordered ih

/-! ## What readers look at -/

/-- Readers look at one of two schedules, of the epoch on record and of the one after it. -/
theorem State.Coherent.serves {schedule : Schedule} (h : state.Coherent relay.length)
    (hserves : state.Serves schedule) :
    ∃ current next, state.window = ⟨some current, some next⟩ ∧ current.epoch < next.epoch ∧
      (schedule = current ∨ schedule = next) := by
  obtain ⟨_, _, hbroadcast, _⟩ := h.epochs_agree
  have hholds : state.window.Holds schedule := by
    rcases hserves with hholds | hholds
    · exact hholds
    · rwa [hbroadcast] at hholds
  rcases h with hfresh | ⟨last, hsynced⟩
  · rw [hfresh.window] at hholds
    rcases hholds with hnone | hnone <;> cases hnone
  · obtain ⟨current, next, hwindow, hcurrent, hnext⟩ := hsynced.window
    refine ⟨current, next, hwindow, ?_, ?_⟩
    · rw [hcurrent.epoch_eq, hnext.epoch_eq]
      exact Nat.lt_succ_self last
    · rw [hwindow] at hholds
      exact hholds.imp (fun hsome => (Option.some.inj hsome).symm)
        fun hsome => (Option.some.inj hsome).symm

/-- What is published once a schedule is served, for its epoch, is that schedule: whether before, or in
whatever way the run goes on. -/
theorem Run.eq_of_served {schedule : Schedule} {later : List Turn} {reached : State}
    (hrun : relay.Run State.start turns state) (hserves : state.Serves schedule)
    (hlater : relay.Run state later reached) (hp : p ∈ ledger (turns ++ later))
    (hepoch : p.epoch = schedule.epoch) : p = relay.calendar.payload schedule := by
  obtain ⟨current, next, hwindow, hlt, hschedule⟩ := hrun.coherent.serves hserves
  obtain ⟨hnext, hcurrent⟩ := hrun.faithful current next hwindow
  have hordered := (hrun.append hlater).ordered
  rw [ledger_append] at hordered hp
  rcases hschedule with rfl | rfl
  · rcases List.mem_append.mp hp with hbefore | hafter
    · exact hcurrent p hbefore hepoch
    · -- All that is published later is for epochs beyond the next one.
      have hbeyond : next.epoch < p.epoch :=
        (List.pairwise_append.mp hordered.increasing).2.2 _ hnext p hafter
      exact absurd hepoch (Nat.ne_of_gt (Nat.lt_trans hlt hbeyond))
  · exact hordered.eq_of_epoch hp (List.mem_append_left _ hnext) hepoch

/-- **Readers look at what was published.** Whatever the nodes reply, every schedule in the window, or in
the copy of it that readers have, is the one that completed refreshes publish for its epoch, if they publish
one: before, and in whatever way the run goes on, so that no reader is left behind with an outdated copy. In
particular, when an epoch follows the one before, the schedule that becomes current for it has been
published, whatever duties were fetched for it in between. -/
theorem served_as_published (hrun : relay.Run State.start turns state) :
    (∀ schedule, state.Serves schedule → ∀ later reached, relay.Run state later reached →
      ∀ turn ∈ turns ++ later, turn.commits = true → ∀ call ∈ calls turn.talk,
        call.payload.epoch = schedule.epoch → call.payload = relay.calendar.payload schedule) ∧
    ∀ last talk acknowledgement after, state.progress.lastProcessed = some last →
      (relay.tick state).Leads talk (.ok (.committed (last + 1) acknowledgement), after) →
      ∃ schedule, schedule.epoch = last + 1 ∧ state.window.next = some schedule ∧
        after.window.current = some schedule ∧ after.broadcast.value.current = some schedule ∧
        relay.calendar.payload schedule ∈ ledger turns := by
  constructor
  · intro schedule hserves later reached hlater turn hturn hcommits call hcall hepoch
    have hp : call.payload ∈ turn.payloads := List.mem_map.mpr ⟨call, hcall, rfl⟩
    exact hrun.eq_of_served hserves hlater (mem_ledger hturn hcommits hp) hepoch
  · intro last talk acknowledgement after hlast htick
    obtain ⟨epoch, current, next, hcompletes⟩ := completes_of_tick hrun.coherent htick rfl
    obtain rfl : epoch = last + 1 := (Option.some.inj hcompletes.epoch?).symm
    cases hcompletes.origin hrun.coherent with
    | first hfresh => exact absurd hlast hfresh.not_processed
    | rotated hsynced _ hnext =>
      obtain ⟨_, _, hwindow, _⟩ := hsynced.window
      rw [hwindow] at hnext
      cases hnext
      refine ⟨current, hcompletes.prepared.epoch_current, congrArg Window.next hwindow,
        congrArg Window.current hcompletes.window, ?_, (hrun.faithful _ _ hwindow).1⟩
      rw [hcompletes.broadcast]
      exact congrArg Window.current hcompletes.window
    | skipped hsynced hgap =>
      obtain rfl := hsynced.last_eq hlast
      exact absurd hgap (Nat.lt_irrefl _)

/-- An epoch is published with one proposer, and no proposer of it is known any more when it is current. -/
def forgotten : List Turn :=
  standard.enact State.start [repliesAt 64 1 2, { repliesAt 96 2 3 with duties := .ok [] }]

/-- Readers are still given the proposer that was published, and nothing else was published. -/
theorem forgotten_served_as_published :
    ∃ state schedule, standard.Run State.start forgotten state ∧
      dutyAnswers 3 (forgotten.flatMap Turn.talk) = [[]] ∧
      state.window.current = some schedule ∧
      standard.calendar.payload schedule = ⟨3, ["0x02"], 576⟩ ∧
      (⟨3, ["0x02"], 576⟩ : Payload) ∈ ledger forgotten ∧
      ∀ turn ∈ forgotten, ∀ call ∈ calls turn.talk, call.payload.epoch = 3 →
        call.payload = ⟨3, ["0x02"], 576⟩ := by
  have hfirst : standard.Run State.start (standard.enact State.start [repliesAt 64 1 2]) _ :=
    enact_run _
  have hrun := hfirst.append (turnFor_run { repliesAt 96 2 3 with duties := .ok [] })
  have hsecond := hrun.tick_of_mem (List.mem_cons_of_mem _ List.mem_cons_self)
  obtain ⟨schedule, hthree, _, hcurrent, _, hpublished⟩ :=
    (served_as_published hfirst).2 2 _ .accepted _ rfl hsecond
  have hpayload : standard.calendar.payload schedule = ⟨3, ["0x02"], 576⟩ :=
    Option.some.inj ((congrArg (Option.map standard.calendar.payload) hcurrent).symm.trans rfl)
  refine ⟨_, schedule, hrun, rfl, hcurrent, hpayload, ?_, fun turn hturn call hcall hepoch => ?_⟩
  · rw [← hpayload]
    exact List.mem_append_left _ hpublished
  · have hcommits : ∀ turn ∈ forgotten, turn.commits = true := List.all_eq_true.mp rfl
    rw [← hpayload]
    exact (served_as_published hrun).1 schedule (Or.inl (Or.inl hcurrent)) [] _ .refl turn
      (List.mem_append_left _ hturn) (hcommits turn hturn) call hcall (hepoch.trans hthree.symm)

end Relay
end DutyRelay
