import DutyRelay.Proofs.Completion

/-!
# The order of epochs over a run

Heads may fall behind, jump over epochs or move between two questions, and a refresh may be aborted at
any point. Whatever happens, what is published in a tick is the beginning of the payload of the current
epoch, at the first refresh only, and the payload of the next one; and over a run the completed refreshes
are for ever later epochs and publish each epoch once.

## Contents
- `Course.refreshed`, `published_of_tick`: one tick.
- `InStep`, `Run.inStep`: the epochs of completed refreshes and those of their payloads.
- `Run.lastProcessed_le`: there is no way back.
- `run_publishes_in_order`: all of it together.
- `wandering`: a head that jumps and falls behind.
-/

namespace DutyRelay

namespace Relay

variable {relay : Relay} {state : State} {turns completed : List Turn} {turn : Turn} {epoch : Epoch}
  {current next : Schedule}

/-! ## One tick -/

/-- A tick that publishes anything has taken up a refresh that was due. -/
theorem Course.refreshed {replies : Replies} {talk : List (Exchange Nodes)}
    {result : Outcome TickResult} {after : State}
    (hcourse : relay.Course state replies talk result after) (h : calls talk ≠ []) :
    ∃ head, state.progress.IsDue (relay.length.epochOf head) ∧
      talk = ⟨.head, .ok head⟩ :: Step.talk (relay.refreshSteps state.window
        (relay.length.epochOf head) state.progress.firstRun replies) := by
  cases hcourse with
  | unseen hhead => exact absurd rfl h
  | idle hhead hsettled => exact absurd rfl h
  | aborted hhead hdue hfault =>
    obtain ⟨rfl, rfl, hisDue⟩ := Progress.transition_eq_due_iff.mp hdue
    exact ⟨_, hisDue, rfl⟩
  | committed hhead hdue hfault =>
    obtain ⟨rfl, rfl, hisDue⟩ := Progress.transition_eq_due_iff.mp hdue
    exact ⟨_, hisDue, by rw [Step.talk_eq_fullTalk hfault]⟩

/-- What is published in a tick is prepared, and it is the beginning of the payload of the current epoch,
at the first refresh only, and the payload of the next one. -/
theorem published_of_tick (htick : (relay.tick turn.before).Leads turn.talk (turn.result, turn.after))
    (h : turn.payloads ≠ []) :
    ∃ head current next, ⟨.head, .ok head⟩ ∈ turn.talk ∧
      turn.before.progress.IsDue (relay.length.epochOf head) ∧
      relay.Prepared turn.before (relay.length.epochOf head) turn.talk current next ∧
      turn.payloads <+:
        (if turn.before.progress.firstRun then [relay.calendar.payload current] else []) ++
          [relay.calendar.payload next] := by
  have hcalls : calls turn.talk ≠ [] := fun hnone => h (congrArg (List.map Call.payload) hnone)
  obtain ⟨replies, hcourse⟩ := tick_leads_iff.mp htick
  obtain ⟨head, hisDue, htalk⟩ := hcourse.refreshed hcalls
  unfold Turn.payloads
  rw [htalk] at hcalls ⊢
  obtain ⟨current, next, hprepared, hpayloads⟩ := prepared_of_calls (.ok head) rfl hcalls
  exact ⟨head, current, next, List.mem_cons_self, hisDue, hprepared, hpayloads⟩

/-! ## Completed refreshes -/

/-- The epochs of completed refreshes grow, the last of them is the one on record, and the payloads are
for the first of them and for the epoch after each. -/
structure InStep (completed : List Turn) (state : State) : Prop where
  last : (committedEpochs completed).getLast? = state.progress.lastProcessed
  increasing : (committedEpochs completed).Pairwise (· < ·)
  published : (completed.flatMap Turn.payloads).map Payload.epoch =
    (committedEpochs completed).take 1 ++ (committedEpochs completed).map (· + 1)

theorem Completes.committedEpochs_append (h : relay.Completes turn epoch current next) :
    committedEpochs (completed ++ [turn]) = committedEpochs completed ++ [epoch] := by
  unfold committedEpochs
  rw [List.filterMap_append, List.filterMap_cons_some h.epoch?, List.filterMap_nil]

theorem Completes.payload_epochs (h : relay.Completes turn epoch current next) :
    turn.payloads.map Payload.epoch =
      (if turn.before.progress.firstRun then [epoch] else []) ++ [epoch + 1] := by
  have hcurrent : (relay.calendar.payload current).epoch = epoch := h.prepared.epoch_current
  have hnext : (relay.calendar.payload next).epoch = epoch + 1 := h.prepared.epoch_next
  rw [h.payloads, List.map_append]
  cases turn.before.progress.firstRun <;> simp [hcurrent, hnext]

/-- A record of the last epoch bounds all of them. -/
theorem InStep.le_last {last : Epoch} (h : InStep completed state)
    (hlast : state.progress.lastProcessed = some last) :
    ∀ e ∈ committedEpochs completed, e ≤ last := by
  intro e he
  obtain ⟨earlier, hsplit⟩ := List.getLast?_eq_some_iff.mp (h.last.trans hlast)
  have hincreasing := h.increasing
  rw [hsplit] at he hincreasing
  rcases List.mem_append.mp he with he | he
  · exact Nat.le_of_lt ((List.pairwise_append.mp hincreasing).2.2 e he last List.mem_cons_self)
  · exact Nat.le_of_eq (List.mem_singleton.mp he)

/-- The first refresh publishes both epochs. -/
theorem InStep.first (h : InStep completed turn.before) (hfresh : turn.before.IsFresh)
    (hcompletes : relay.Completes turn epoch current next) :
    InStep (completed ++ [turn]) turn.after := by
  have hnone : committedEpochs completed = [] :=
    List.getLast?_eq_none_iff.mp (h.last.trans hfresh.lastProcessed)
  have hpublished := h.published
  rw [hnone] at hpublished
  refine ⟨?_, ?_, ?_⟩
  · rw [hcompletes.committedEpochs_append, hnone, hcompletes.lastProcessed]; rfl
  · rw [hcompletes.committedEpochs_append, hnone]; exact List.pairwise_singleton _ _
  · rw [List.flatMap_append, List.map_append, hpublished, List.flatMap_singleton,
      hcompletes.payload_epochs, hfresh.firstRun, hcompletes.committedEpochs_append, hnone]
    rfl

/-- Every later refresh publishes the next epoch. -/
theorem InStep.later {last : Epoch} (h : InStep completed turn.before)
    (hsynced : turn.before.IsSynced relay.length last)
    (hcompletes : relay.Completes turn epoch current next) :
    InStep (completed ++ [turn]) turn.after := by
  have hlt : last < epoch := hcompletes.due.lt hsynced.firstRun hsynced.lastProcessed
  have hsome : committedEpochs completed ≠ [] := by
    intro hnone
    have hlast := h.last
    rw [hnone, hsynced.lastProcessed] at hlast
    cases hlast
  refine ⟨?_, ?_, ?_⟩
  · rw [hcompletes.committedEpochs_append, List.getLast?_concat, hcompletes.lastProcessed]
  · rw [hcompletes.committedEpochs_append, List.pairwise_append]
    refine ⟨h.increasing, List.pairwise_singleton _ _, fun e he e' he' => ?_⟩
    obtain rfl := List.mem_singleton.mp he'
    exact Nat.lt_of_le_of_lt (h.le_last hsynced.lastProcessed e he) hlt
  · have hlength : 1 ≤ (committedEpochs completed).length := List.length_pos_iff.mpr hsome
    rw [List.flatMap_append, List.map_append, h.published, List.flatMap_singleton,
      hcompletes.payload_epochs, hsynced.firstRun, hcompletes.committedEpochs_append,
      List.take_append_of_le_length hlength, List.map_append, List.append_assoc]
    rfl

/-- **The epochs of completed refreshes and of what they published.** -/
theorem Run.inStep (hrun : relay.Run State.start turns state) :
    InStep (turns.filter Turn.commits) state := by
  refine hrun.along_commits ⟨rfl, .nil, rfl⟩ ?_ ?_
  · intro completed s t hst h
    exact ⟨h.last.trans hst.lastProcessed.symm, h.increasing, h.published⟩
  · intro turns turn epoch current next hbefore hcompletes ih
    rcases hbefore.coherent with hfresh | ⟨last, hsynced⟩
    · exact ih.first hfresh hcompletes
    · exact ih.later hsynced hcompletes

/-! ## No way back -/

/-- A tick never takes an epoch back from the record. -/
theorem State.Coherent.lastProcessed_le {talk : List (Exchange Nodes)} {result : Outcome TickResult}
    {after : State} {last : Epoch} (h : state.Coherent relay.length)
    (htick : (relay.tick state).Leads talk (result, after))
    (hlast : state.progress.lastProcessed = some last) :
    ∃ reached, after.progress.lastProcessed = some reached ∧ last ≤ reached := by
  cases hcommits : commits result with
  | false => exact ⟨last, (tick_sameButHead htick hcommits).lastProcessed.trans hlast, Nat.le_refl last⟩
  | true =>
    obtain ⟨epoch, current, next, hcompletes⟩ := completes_of_tick h htick hcommits
    rcases h with hfresh | ⟨_, hsynced⟩
    · exact absurd hlast hfresh.not_processed
    · exact ⟨epoch, hcompletes.lastProcessed,
        Nat.le_of_lt (hcompletes.due.lt hsynced.firstRun hlast)⟩

theorem Run.lastProcessed_le {later : State} {last : Epoch} (hrun : relay.Run state turns later)
    (h : state.Coherent relay.length) (hlast : state.progress.lastProcessed = some last) :
    ∃ reached, later.progress.lastProcessed = some reached ∧ last ≤ reached := by
  induction hrun with
  | refl => exact ⟨last, hlast, Nat.le_refl last⟩
  | tail hbefore htick ih =>
    obtain ⟨between, hbetween, hle⟩ := ih
    obtain ⟨reached, hreached, hle'⟩ := (hbefore.coherent_later h).lastProcessed_le htick hbetween
    exact ⟨reached, hreached, Nat.le_trans hle hle'⟩

/-! ## A whole run -/

/-- **Payloads follow the epochs.** Whatever the nodes reply,
- what is published in a tick is prepared, and it is the beginning of the payload of the epoch that the
  head is in, at the first refresh only, and the payload of the next epoch;
- a tick that completes a refresh saw the head in its epoch and published all of this;
- the epochs of completed refreshes grow;
- their payloads are for the first of these epochs and for the epoch after each, which grow as well, so that
  no epoch is published twice;
- and neither the record nor the window ever goes back to an earlier epoch. -/
theorem run_publishes_in_order (hrun : relay.Run State.start turns state) :
    (∀ turn ∈ turns, turn.payloads ≠ [] →
      ∃ head current next, ⟨.head, .ok head⟩ ∈ turn.talk ∧
        turn.before.progress.IsDue (relay.length.epochOf head) ∧
        relay.Prepared turn.before (relay.length.epochOf head) turn.talk current next ∧
        current.epoch = relay.length.epochOf head ∧ next.epoch = relay.length.epochOf head + 1 ∧
        turn.payloads <+:
          (if turn.before.progress.firstRun then [relay.calendar.payload current] else []) ++
            [relay.calendar.payload next]) ∧
    (∀ turn ∈ turns, ∀ epoch acknowledgement, turn.result = .ok (.committed epoch acknowledgement) →
      (∃ head, ⟨.head, .ok head⟩ ∈ turn.talk ∧ relay.length.epochOf head = epoch) ∧
      turn.payloads.map Payload.epoch =
        (if turn.before.progress.firstRun then [epoch] else []) ++ [epoch + 1]) ∧
    (committedEpochs turns).Pairwise (· < ·) ∧
    (ledger turns).map Payload.epoch =
      (committedEpochs turns).take 1 ++ (committedEpochs turns).map (· + 1) ∧
    ((ledger turns).map Payload.epoch).Pairwise (· < ·) ∧
    ∀ later reached, relay.Run state later reached →
      (∀ last, state.progress.lastProcessed = some last →
        ∃ last', reached.progress.lastProcessed = some last' ∧ last ≤ last') ∧
      ∀ epoch, state.window.currentEpoch = some epoch →
        ∃ epoch', reached.window.currentEpoch = some epoch' ∧ epoch ≤ epoch' := by
  have hinStep := hrun.inStep
  refine ⟨?_, ?_, ?_, ?_, ?_, ?_⟩
  · intro turn hturn hpayloads
    obtain ⟨head, current, next, hhead, hdue, hprepared, hprefix⟩ :=
      published_of_tick (hrun.tick_of_mem hturn) hpayloads
    exact ⟨head, current, next, hhead, hdue, hprepared, hprepared.epoch_current, hprepared.epoch_next,
      hprefix⟩
  · intro turn hturn epoch acknowledgement hresult
    obtain ⟨epoch', current, next, hcompletes⟩ := hrun.completes_of_mem hturn (by
      unfold Turn.commits
      rw [hresult]
      rfl)
    have hepoch : turn.epoch? = some epoch := by
      unfold Turn.epoch?
      rw [hresult]
    obtain rfl : epoch' = epoch := Option.some.inj (hcompletes.epoch?.symm.trans hepoch)
    exact ⟨hcompletes.head, hcompletes.payload_epochs⟩
  · rw [← committedEpochs_filter]
    exact hinStep.increasing
  · rw [← committedEpochs_filter]
    exact hinStep.published
  · exact List.pairwise_map.mpr hrun.ordered.increasing
  · intro later reached hlater
    have hstate := hrun.coherent
    refine ⟨fun last => hlater.lastProcessed_le hstate, fun epoch hepoch => ?_⟩
    -- The window is at the epoch of the record, before and after.
    rw [hstate.epochs_agree.1] at hepoch
    rw [(hlater.coherent_later hstate).epochs_agree.1]
    exact hlater.lastProcessed_le hstate hepoch

/-- A first refresh whose last payload fails, the same refresh once more, a head that has hardly moved, one
that has jumped over epochs, and one that has fallen behind. -/
def wandering : List Replies :=
  [{ repliesAt 64 1 2 with next := .error (.unavailable "execution node") }, repliesAt 64 1 2,
    repliesAt 70 1 2, repliesAt 230 7 8, repliesAt 40 5 6]

/-- The payloads of the third and the fourth epoch are handed over twice, and only the second time counts. -/
theorem wandering_publishes_in_order :
    ∃ state, standard.Run State.start (standard.enact State.start wandering) state ∧
      state.progress.lastProcessed = some 7 ∧
      (standard.enact State.start wandering).map Turn.payloads =
        [[⟨2, ["0x01"], 384⟩, ⟨3, ["0x02"], 576⟩], [⟨2, ["0x01"], 384⟩, ⟨3, ["0x02"], 576⟩], [],
          [⟨8, ["0x08"], 1536⟩], []] ∧
      committedEpochs (standard.enact State.start wandering) = [2, 7] ∧
      ledger (standard.enact State.start wandering) =
        [⟨2, ["0x01"], 384⟩, ⟨3, ["0x02"], 576⟩, ⟨8, ["0x08"], 1536⟩] ∧
      (ledger (standard.enact State.start wandering)).map Payload.epoch = [2, 3, 8] ∧
      (committedEpochs (standard.enact State.start wandering)).Pairwise (· < ·) := by
  have hrun : standard.Run State.start (standard.enact State.start wandering) _ := enact_run wandering
  obtain ⟨_, _, hincreasing, hpublished, _, _⟩ := run_publishes_in_order hrun
  exact ⟨_, hrun, rfl, rfl, rfl, rfl, hpublished, hincreasing⟩

end Relay
end DutyRelay
