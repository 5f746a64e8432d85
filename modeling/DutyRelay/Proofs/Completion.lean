import DutyRelay.Proofs.Answers
import DutyRelay.Proofs.Invisibility

/-!
# Completed refreshes

All that a tick does when it completes a refresh is stated here once: what it saw and heard, what it
handed to the execution node, the state that it left, and where the schedule comes from that is current
now. The ticks between completed refreshes change at most the head slot, so what holds along a run is
shown by induction along its completed refreshes.

## Contents
- `Turn.epoch?`, `committedEpochs`: the epochs of completed refreshes.
- `Relay.Completes`, `completes_of_tick`: what such a tick does.
- `Relay.Origin`, `Completes.origin`: the first refresh, the next epoch, or an epoch after a gap.
- `Run.along_commits`: induction along the completed refreshes of a run.
-/

namespace DutyRelay

namespace Relay

variable {relay : Relay} {state : State} {turns : List Turn} {turn : Turn} {epoch : Epoch}
  {current next : Schedule}

/-! ## The epochs of completed refreshes -/

/-- The epoch of the refresh that was completed in the turn, if one was. -/
def Turn.epoch? (turn : Turn) : Option Epoch :=
  match turn.result with
  | .ok (.committed epoch _) => some epoch
  | .ok (.idle _) => none
  | .error _ => none

/-- The epochs of the refreshes that were completed, one after another. -/
def committedEpochs (turns : List Turn) : List Epoch := turns.filterMap Turn.epoch?

theorem epoch?_of_not_commits (h : turn.commits = false) : turn.epoch? = none := by
  obtain ⟨before, talk, result, after⟩ := turn
  cases result with
  | error failure => rfl
  | ok result =>
    cases result with
    | idle epoch => rfl
    | committed epoch acknowledgement => cases h

theorem committedEpochs_filter : committedEpochs (turns.filter Turn.commits) = committedEpochs turns := by
  unfold committedEpochs
  induction turns with
  | nil => rfl
  | cons turn rest ih =>
    cases hcommits : turn.commits with
    | true => rw [List.filter_cons_of_pos hcommits, List.filterMap_cons, List.filterMap_cons, ih]
    | false =>
      rw [List.filter_cons_of_neg (by simp [hcommits]),
        List.filterMap_cons_none (epoch?_of_not_commits hcommits), ih]

/-! ## What a tick does that completes a refresh -/

/-- All that a turn does in which a refresh is completed: the head was seen in the epoch and a refresh was
due, everything was heard and looked at, the payloads were handed over and answered, and now the record,
the window and the readers are at the epoch. -/
structure Completes (relay : Relay) (turn : Turn) (epoch : Epoch) (current next : Schedule) : Prop where
  result : ∃ acknowledgement, turn.result = .ok (.committed epoch acknowledgement)
  head : ∃ head, ⟨.head, .ok head⟩ ∈ turn.talk ∧ relay.length.epochOf head = epoch
  due : turn.before.progress.IsDue epoch
  prepared : relay.Prepared turn.before epoch turn.talk current next
  payloads : turn.payloads =
    (if turn.before.progress.firstRun then [relay.calendar.payload current] else []) ++
      [relay.calendar.payload next]
  answered : ∀ call ∈ calls turn.talk, ∃ answer, call.reply = .ok answer
  lastProcessed : turn.after.progress.lastProcessed = some epoch
  window : turn.after.window = ⟨some current, some next⟩
  broadcast : turn.after.broadcast.value = turn.after.window

theorem Completes.epoch? (h : relay.Completes turn epoch current next) : turn.epoch? = some epoch := by
  obtain ⟨_, hresult⟩ := h.result
  unfold Turn.epoch?
  rw [hresult]

/-- In a refresh without a fault every payload is answered. -/
theorem answered_of_clean {window : Window} {firstRun : Bool} {replies : Replies}
    (h : relay.Clean window epoch firstRun replies) :
    ∀ call ∈ relay.windowCalls firstRun current next replies, ∃ answer, call.reply = .ok answer := by
  intro call hcall
  rw [windowCalls_of_clean h] at hcall
  rcases List.mem_append.mp hcall with hcurrent | hnext
  · cases firstRun with
    | false => cases hcurrent
    | true =>
      obtain rfl := List.mem_singleton.mp hcurrent
      exact h.current rfl
  · obtain rfl := List.mem_singleton.mp hnext
    exact h.next

/-- **What a tick does that completes a refresh.** -/
theorem completes_of_tick {before after : State} {talk : List (Exchange Nodes)}
    {result : Outcome TickResult} (hstate : before.Coherent relay.length)
    (htick : (relay.tick before).Leads talk (result, after)) (hcommits : commits result = true) :
    ∃ epoch current next, relay.Completes ⟨before, talk, result, after⟩ epoch current next := by
  obtain ⟨replies, hcourse⟩ := tick_leads_iff.mp htick
  cases hcourse with
  | unseen hhead => cases hcommits
  | idle hhead hsettled => cases hcommits
  | aborted hhead hdue hfault => cases hcommits
  | @committed head epoch firstRun hhead hdue hfault =>
    obtain ⟨hepoch, hfirst, hisDue⟩ := Progress.transition_eq_due_iff.mp hdue
    have hclean := clean_iff.mp hfault
    have hfetched : Step.firstFault
        (relay.fetchSteps before.window epoch firstRun replies) = none :=
      fetched_iff.mpr ⟨firstFault_nextSteps_eq_none_iff.mpr hclean.upcoming,
        firstFault_freshSteps_eq_none_iff.mpr hclean.duties⟩
    obtain ⟨current, next, hwindow, hprepared⟩ := prepared_of_fetched (.ok head) hfirst hfetched
    have hcalls := calls_of_fetched hfetched hwindow
    -- Nothing went wrong, so all that was to be said was said.
    rw [Step.talk_eq_fullTalk hfault] at hprepared hcalls
    refine ⟨epoch, current, next, ⟨_, rfl⟩, ⟨head, List.mem_cons_self, hepoch.symm⟩, hisDue, hprepared,
      ?_, ?_, hstate.lastProcessed_commit hdue, hwindow, rfl⟩
    · show (calls (Step.fullTalk _)).map Call.payload = _
      rw [hcalls, windowCalls_of_clean hclean, List.map_append, ← hfirst]
      cases firstRun <;> rfl
    · show ∀ call ∈ calls (Step.fullTalk _), _
      rw [hcalls]
      exact answered_of_clean hclean

/-- The same for a turn of a run. -/
theorem Run.completes_of_mem (hrun : relay.Run State.start turns state) (hturn : turn ∈ turns)
    (hcommits : turn.commits = true) :
    ∃ epoch current next, relay.Completes turn epoch current next := by
  induction hrun with
  | refl => cases hturn
  | tail hrun htick ih =>
    rcases List.mem_append.mp hturn with hturn | hturn
    · exact ih hturn
    · obtain rfl := List.mem_singleton.mp hturn
      exact completes_of_tick hrun.coherent htick hcommits

/-! ## Where the current schedule comes from -/

/-- The epoch's one answer about its duties, given in the turn, amounts to the schedule. -/
def Turn.Fetched (relay : Relay) (turn : Turn) (epoch : Epoch) (schedule : Schedule) : Prop :=
  ∃ assignments, dutyAnswers epoch turn.talk = [assignments] ∧
    Schedule.build relay.length epoch assignments = .ok schedule

/-- Where the schedule comes from that a completed refresh makes current. At the first refresh it was
fetched. Later it was the next one until now, if the epoch follows the one before; and if epochs were
missed in between, it was fetched. -/
inductive Origin (relay : Relay) (turn : Turn) (epoch : Epoch) (current : Schedule) : Prop
  | first (hfresh : turn.before.IsFresh) (hfetched : turn.Fetched relay epoch current)
  | rotated {last} (hsynced : turn.before.IsSynced relay.length last) (hlast : last + 1 = epoch)
      (hnext : turn.before.window.next = some current)
  | skipped {last} (hsynced : turn.before.IsSynced relay.length last) (hlast : last + 1 < epoch)
      (hfetched : turn.Fetched relay epoch current)

theorem Completes.origin (h : relay.Completes turn epoch current next)
    (hstate : turn.before.Coherent relay.length) : relay.Origin turn epoch current := by
  rcases hstate with hfresh | ⟨last, hsynced⟩
  · rcases h.prepared.current with hstaged | ⟨_, hfetched⟩
    · rw [hfresh.window, Window.staged?_empty] at hstaged
      cases hstaged
    · exact .first hfresh hfetched
  · obtain ⟨before, upcoming, hwindow, hbefore, hupcoming⟩ := hsynced.window
    have hlast : last < epoch := h.due.lt hsynced.firstRun hsynced.lastProcessed
    rcases h.prepared.current with hstaged | ⟨hstaged, hfetched⟩
    · -- The schedule of the epoch before is not the one that is staged.
      obtain ⟨hepoch, hmem⟩ := Window.staged?_eq_some hstaged
      rw [hwindow] at hmem
      rcases hmem with hmem | hmem
      · cases hmem
        exact absurd (hbefore.epoch_eq.symm.trans hepoch) (Nat.ne_of_lt hlast)
      · refine .rotated hsynced ?_ (hwindow ▸ hmem)
        cases hmem
        exact hupcoming.epoch_eq.symm.trans hepoch
    · refine .skipped hsynced (Nat.lt_of_le_of_ne hlast fun heq => ?_) hfetched
      have hnext : turn.before.window.next = some upcoming := by rw [hwindow]
      rw [Window.staged?_of_next hnext (hupcoming.epoch_eq.trans heq)] at hstaged
      cases hstaged

/-! ## Induction along completed refreshes -/

/-- **Induction along the completed refreshes of a run.** A statement about these and the state holds if
it holds at the start, does not depend on the head slot, and is preserved by every tick that completes a
refresh. -/
theorem Run.along_commits {motive : List Turn → State → Prop}
    (hrun : relay.Run State.start turns state) (hstart : motive [] State.start)
    (hsame : ∀ completed s t, s.SameButHead t → motive completed s → motive completed t)
    (hcommit : ∀ turns turn epoch current next, relay.Run State.start turns turn.before →
      relay.Completes turn epoch current next → motive (turns.filter Turn.commits) turn.before →
      motive (turns.filter Turn.commits ++ [turn]) turn.after) :
    motive (turns.filter Turn.commits) state := by
  induction hrun with
  | refl => exact hstart
  | @tail turns before talk result after hrun htick ih =>
    rw [List.filter_append]
    cases hcommits : (⟨before, talk, result, after⟩ : Turn).commits with
    | true =>
      obtain ⟨epoch, current, next, hcompletes⟩ := completes_of_tick hrun.coherent htick hcommits
      rw [List.filter_cons_of_pos hcommits, List.filter_nil]
      exact hcommit turns _ epoch current next hrun hcompletes ih
    | false =>
      rw [List.filter_cons_of_neg (by simp [hcommits]), List.filter_nil, List.append_nil]
      exact hsame _ _ _ (tick_sameButHead htick hcommits) ih

end Relay
end DutyRelay
