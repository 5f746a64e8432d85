import DutyRelay.Proofs.Run

/-!
# The record, the window and the readers agree

The relay keeps three things that have to fit together: which epoch it dealt with last, the window of two
schedules, and the window as readers see it. They are updated by one commit at the end of a refresh with
many ways to fail. This file shows that they fit after every run: either nothing has been completed yet
and all three are empty, or all three are about one epoch and the one after it.

## Contents
- `State.IsFresh`, `State.IsSynced`: the two shapes of a state.
- `State.Coherent`, `tick_coherent`: a tick preserves them; `Run.coherent`, `Run.coherent_of_mem`.
- `run_coherent`: every relay with a configuration that passes its check has no other state.
-/

namespace DutyRelay

/-- Some assignments amount to a schedule for the epoch that it is of. -/
theorem Schedule.IsOf.of_epoch {length : EpochLength} {epoch epoch' : Epoch} {schedule : Schedule}
    (h : schedule.IsOf length epoch) (hepoch : schedule.epoch = epoch') :
    schedule.IsOf length epoch' := by
  rw [h.epoch_eq] at hepoch
  rwa [← hepoch]

namespace Relay

/-! ## The two shapes of a state -/

/-- No refresh has been completed, and nothing is known. -/
structure State.IsFresh (state : State) : Prop where
  lastProcessed : state.progress.lastProcessed = none
  firstRun : state.progress.firstRun = true
  window : state.window = Window.empty
  broadcast : state.broadcast.value = Window.empty

/-- The refresh for an epoch was completed last: the window holds the schedules of this epoch and of the
one after it, and readers see the same window. -/
structure State.IsSynced (length : EpochLength) (last : Epoch) (state : State) : Prop where
  lastProcessed : state.progress.lastProcessed = some last
  firstRun : state.progress.firstRun = false
  window : ∃ current next, state.window = ⟨some current, some next⟩ ∧
    current.IsOf length last ∧ next.IsOf length (last + 1)
  broadcast : state.broadcast.value = state.window

/-- The state has one of the two shapes. -/
def State.Coherent (length : EpochLength) (state : State) : Prop :=
  state.IsFresh ∨ ∃ last, state.IsSynced length last

variable {relay : Relay} {state : State} {length : EpochLength} {last epoch : Epoch} {head : Slot}

theorem State.IsFresh.not_synced (h : state.IsFresh) : ¬ state.IsSynced length last := by
  intro hsynced
  have hfirst := h.firstRun
  rw [hsynced.firstRun] at hfirst
  cases hfirst

theorem State.IsFresh.not_processed (h : state.IsFresh) :
    state.progress.lastProcessed ≠ some last := by
  rw [h.lastProcessed]
  nofun

theorem State.IsSynced.last_eq (h : state.IsSynced length last)
    (hlast : state.progress.lastProcessed = some epoch) : last = epoch :=
  Option.some.inj (h.lastProcessed.symm.trans hlast)

theorem State.isFresh_start : State.start.IsFresh := ⟨rfl, rfl, rfl, rfl⟩

/-! ## What a tick preserves -/

theorem State.Coherent.see (h : state.Coherent length) : (state.see head).Coherent length := by
  rcases h with ⟨hlast, hfirst, hwindow, hbroadcast⟩ | ⟨last, hlast, hfirst, hwindow, hbroadcast⟩
  · exact Or.inl ⟨hlast, hfirst, hwindow, hbroadcast⟩
  · exact Or.inr ⟨last, hlast, hfirst, hwindow, hbroadcast⟩

/-- A staged schedule of a coherent state is one for the epoch that it is staged for. -/
theorem State.Coherent.isOf_of_staged {schedule : Schedule} (h : state.Coherent length)
    (hstaged : state.window.staged? epoch = some schedule) : schedule.IsOf length epoch := by
  obtain ⟨hepoch, hmem⟩ := Window.staged?_eq_some hstaged
  rcases h with hfresh | ⟨last, hsynced⟩
  · rw [hfresh.window, Window.staged?_empty] at hstaged
    cases hstaged
  · obtain ⟨current, next, hwindow, hcurrent, hnext⟩ := hsynced.window
    rw [hwindow] at hmem
    rcases hmem with hmem | hmem
    · cases hmem; exact hcurrent.of_epoch hepoch
    · cases hmem; exact hnext.of_epoch hepoch

/-- A refresh that is due is for an epoch beyond the last one, so its commit takes this epoch down. -/
theorem State.Coherent.lastProcessed_commit {firstRun : Bool} {window : Window}
    (h : state.Coherent length)
    (hdue : state.progress.transition length head = .due epoch firstRun) :
    ((state.see head).commit epoch window).progress.lastProcessed = some epoch := by
  obtain ⟨_, _, hbeyond⟩ := Progress.transition_eq_due_iff.mp hdue
  unfold State.commit State.see Progress.commit Progress.see
  rcases h with hfresh | ⟨last, hsynced⟩
  · simp only [hfresh.lastProcessed]
  · have hlast : last < epoch := hbeyond.lt hsynced.firstRun hsynced.lastProcessed
    simp only [hsynced.lastProcessed]
    rw [Nat.max_eq_right (Nat.le_of_lt hlast)]

/-- **A completed refresh leaves the state synced to its epoch.** -/
theorem State.Coherent.commit {firstRun : Bool} {replies : Replies}
    (h : state.Coherent relay.length)
    (hdue : state.progress.transition relay.length head = .due epoch firstRun)
    (hfault : Step.firstFault (relay.refreshSteps state.window epoch firstRun replies) = none) :
    ((state.see head).commit epoch (relay.windowAfter state.window epoch replies)).IsSynced
      relay.length epoch := by
  have hclean := clean_iff.mp hfault
  obtain ⟨current, next, hwindow, hcurrent, hnext⟩ := windowAfter_eq
    (firstFault_nextSteps_eq_none_iff.mpr hclean.upcoming)
    (firstFault_freshSteps_eq_none_iff.mpr hclean.duties)
  refine ⟨h.lastProcessed_commit hdue, rfl, ⟨current, next, hwindow, ?_, hnext⟩, rfl⟩
  -- The current schedule comes from the window before, or else it has just been fetched.
  rcases hcurrent with hstaged | ⟨_, hfetched⟩
  · exact h.isOf_of_staged hstaged
  · exact hfetched

/-- **Every tick preserves coherence**, whatever is replied in it. -/
theorem tick_coherent {talk : List (Exchange Nodes)} {result : Outcome TickResult} {after : State}
    (h : state.Coherent relay.length) (htick : (relay.tick state).Leads talk (result, after)) :
    after.Coherent relay.length := by
  obtain ⟨replies, hcourse⟩ := tick_leads_iff.mp htick
  cases hcourse with
  | unseen hhead => exact h
  | idle hhead hsettled => exact h.see
  | aborted hhead hdue hfault => exact h.see
  | committed hhead hdue hfault => exact Or.inr ⟨_, h.commit hdue hfault⟩

/-- A run preserves coherence. -/
theorem Run.coherent_later {turns : List Turn} {later : State} (hrun : relay.Run state turns later)
    (h : state.Coherent relay.length) : later.Coherent relay.length :=
  hrun.invariant h fun _ _ _ _ => tick_coherent

theorem Run.coherent {turns : List Turn} (hrun : relay.Run State.start turns state) :
    state.Coherent relay.length := hrun.coherent_later (Or.inl State.isFresh_start)

/-- A turn of a run begins in a coherent state. -/
theorem Run.coherent_of_mem {turns : List Turn} {turn : Turn} (hrun : relay.Run State.start turns state)
    (hturn : turn ∈ turns) : turn.before.Coherent relay.length := by
  obtain ⟨earlier, later, rfl⟩ := List.append_of_mem hturn
  exact hrun.reaches.coherent

/-! ## Agreement on the epoch -/

/-- In a coherent state the window, the record and the readers agree on the epoch, and there is never one
schedule without the other. -/
theorem State.Coherent.epochs_agree (h : state.Coherent length) :
    state.window.currentEpoch = state.progress.lastProcessed ∧
    state.window.nextEpoch = state.progress.lastProcessed.map (· + 1) ∧
    state.broadcast.value = state.window ∧
    state.window.current.isSome = state.window.next.isSome := by
  rcases h with hfresh | ⟨last, hsynced⟩
  · rw [hfresh.window, hfresh.lastProcessed, hfresh.broadcast]
    exact ⟨rfl, rfl, rfl, rfl⟩
  · obtain ⟨current, next, hwindow, hcurrent, hnext⟩ := hsynced.window
    rw [hsynced.broadcast, hsynced.lastProcessed, hwindow]
    refine ⟨?_, ?_, rfl, rfl⟩
    · exact congrArg some hcurrent.epoch_eq
    · exact congrArg some hnext.epoch_eq

theorem length_of_ofConfig {config : Config} (h : config.check = .ok ()) :
    ∃ relay, Relay.ofConfig config = .ok relay ∧ relay.length.slots = config.slotsPerEpoch := by
  unfold Relay.ofConfig
  split
  · rename_i fault hfault
    rw [h] at hfault
    cases hfault
  · exact ⟨_, rfl, rfl⟩

/-- **Every state that a relay can come to has one of the two shapes.** Whatever the nodes reply to a
relay with a configuration that passes its check, after any number of ticks either nothing has been
completed and nothing is known, or the record, the window and the readers are all about one epoch and
the one after it. Every epoch has one after it here, the largest word included (`Relay.fetchNext`). -/
theorem run_coherent {config : Config} (h : config.check = .ok ()) :
    ∃ relay, Relay.ofConfig config = .ok relay ∧ relay.length.slots = config.slotsPerEpoch ∧
      ∀ turns state, relay.Run State.start turns state →
        ((state.IsFresh ∧ ¬ ∃ last, state.IsSynced relay.length last) ∨
          (¬ state.IsFresh ∧ ∃ last, state.IsSynced relay.length last)) ∧
        state.window.currentEpoch = state.progress.lastProcessed ∧
        state.window.nextEpoch = state.progress.lastProcessed.map (· + 1) ∧
        state.broadcast.value = state.window ∧
        state.window.current.isSome = state.window.next.isSome := by
  obtain ⟨relay, hrelay, hslots⟩ := length_of_ofConfig h
  refine ⟨relay, hrelay, hslots, fun turns state hrun => ?_⟩
  have hcoherent := hrun.coherent
  refine ⟨?_, hcoherent.epochs_agree⟩
  rcases hcoherent with hfresh | ⟨last, hsynced⟩
  · exact Or.inl ⟨hfresh, fun ⟨_, hsynced⟩ => hfresh.not_synced hsynced⟩
  · exact Or.inr ⟨fun hfresh => hfresh.not_synced hsynced, last, hsynced⟩

/-- Both shapes are taken: a first tick with such nodes is completed. -/
theorem exists_run_synced (relay : Relay) :
    ∃ turns state, relay.Run State.start turns state ∧ state.IsSynced relay.length 0 := by
  have hdue : State.start.progress.transition relay.length 0 = .due 0 true :=
    Progress.transition_eq_due_iff.mpr ⟨(Nat.zero_div _).symm, rfl, Or.inl rfl⟩
  have hfault : Step.firstFault
      (relay.refreshSteps State.start.window 0 true quietReplies) = none :=
    clean_iff.mpr ⟨⟨[], rfl, rfl⟩, fun _ => ⟨[], rfl, rfl, nofun⟩, fun _ => ⟨true, rfl⟩, ⟨true, rfl⟩⟩
  have htick := tick_leads_iff.mpr ⟨quietReplies, .committed rfl hdue hfault⟩
  exact ⟨_, _, Run.single htick, State.Coherent.commit (Or.inl State.isFresh_start) hdue hfault⟩

theorem run_coherent_standard :
    (Config.standard 0).check = .ok () ∧
    ∃ relay, Relay.ofConfig (Config.standard 0) = .ok relay ∧ relay.length.slots = 32 ∧
      (∀ turns state, relay.Run State.start turns state →
        state.IsFresh ∨ ∃ last, state.IsSynced relay.length last) ∧
      ∃ turns state, relay.Run State.start turns state ∧ state.IsSynced relay.length 0 := by
  obtain ⟨relay, hrelay, hslots, hruns⟩ := @run_coherent (Config.standard 0) rfl
  refine ⟨rfl, relay, hrelay, hslots, fun turns state hrun => ?_, exists_run_synced relay⟩
  exact (hruns turns state hrun).1.imp And.left And.right

end Relay
end DutyRelay
