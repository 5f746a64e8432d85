import DutyRelay.Proofs.Agreement
import DutyRelay.Proofs.Fidelity
import DutyRelay.Proofs.Progression

/-!
# What the execution node has been given

The execution node checks blocks of the epoch that the chain is in, so it needs the payload of this epoch,
and soon the one of the next. It is given the next epoch in every completed refresh, and the current one
only in the first. Later the current epoch has been given before if it was the next one of an earlier
refresh. If epochs were missed in between, or the execution node was out of reach for a whole epoch, it was
not, and then the payload of the epoch that the chain is in is never handed over. This file says exactly
when the execution node has both payloads, and shows a run where it has only one.

## Contents
- `Turn.given`, `Given`: payloads that were answered.
- `given_of_uncommitted`: what is given without a completed refresh.
- `Adjoins`, `Run.published_iff`: the epochs of completed refreshes, and those published in them.
- `given_current_iff`: exactly when the execution node has both payloads.
- `skipping`, `not_given_after_gap`: a run where it has not.
-/

namespace DutyRelay

namespace Relay

variable {relay : Relay} {state : State} {turns : List Turn} {turn : Turn} {epoch : Epoch}
  {current next : Schedule} {p : Payload}

/-! ## Payloads that were answered -/

/-- The payload of a call that was answered, with whatever verdict. -/
def answered? (call : Call) : Option Payload :=
  match call.reply with
  | .ok _ => some call.payload
  | .error _ => none

/-- The payloads that the execution node was given in a turn: it has answered them. -/
def Turn.given (turn : Turn) : List Payload := (calls turn.talk).filterMap answered?

/-- The execution node was given the payload in one of the turns. -/
def Given (turns : List Turn) (p : Payload) : Prop := ∃ turn ∈ turns, p ∈ turn.given

theorem mem_given_iff :
    p ∈ turn.given ↔ ∃ call ∈ calls turn.talk, call.payload = p ∧ ∃ answer, call.reply = .ok answer := by
  unfold Turn.given
  rw [List.mem_filterMap]
  refine exists_congr fun call => and_congr_right fun _ => ?_
  unfold answered?
  cases call.reply with
  | ok answer => exact ⟨fun h => ⟨Option.some.inj h, answer, rfl⟩, fun h => congrArg some h.1⟩
  | error failure => exact ⟨nofun, fun ⟨_, _, h⟩ => nomatch h⟩

/-- **What is given without a completed refresh** is given before the first one is completed: the payload of
the current epoch, right before the one of the next epoch fails. -/
theorem given_of_uncommitted (htick : (relay.tick turn.before).Leads turn.talk (turn.result, turn.after))
    (hcommits : turn.commits = false) (hp : p ∈ turn.given) :
    turn.before.progress.firstRun = true ∧ ∃ q answer failure, q.epoch = p.epoch + 1 ∧
      calls turn.talk = [⟨p, .ok answer⟩, ⟨q, .error failure⟩] ∧ turn.result = .error failure := by
  obtain ⟨call, hcall, rfl, answer, hanswer⟩ := mem_given_iff.mp hp
  obtain ⟨hfirst, q, failure, hepochs, hcalls, hresult⟩ :=
    answered_of_uncommitted htick hcommits hcall hanswer
  refine ⟨hfirst, q, answer, failure, hepochs, ?_, hresult⟩
  rw [hcalls, ← hanswer]

/-- All that completed refreshes publish is answered. -/
theorem Run.given_of_published (hrun : relay.Run State.start turns state) (hp : p ∈ ledger turns) :
    Given turns p := by
  obtain ⟨turn, hturn, hp⟩ := List.mem_flatMap.mp hp
  obtain ⟨hmem, hcommits⟩ := List.mem_filter.mp hturn
  obtain ⟨epoch, current, next, hcompletes⟩ := hrun.completes_of_mem hmem hcommits
  obtain ⟨call, hcall, rfl⟩ := List.mem_map.mp hp
  exact ⟨turn, hmem, mem_given_iff.mpr ⟨call, hcall, rfl, hcompletes.answered call hcall⟩⟩

/-! ## Epochs without a gap before them -/

/-- The epoch is the first of them, or the one before it is among them. -/
def Adjoins (epochs : List Epoch) (epoch : Epoch) : Prop :=
  epochs.head? = some epoch ∨ ∃ before ∈ epochs, before + 1 = epoch

/-- **Completed refreshes publish an epoch exactly if** theirs was the first one, or that of the epoch before
was completed. -/
theorem Run.published_iff (hrun : relay.Run State.start turns state) :
    (∃ p ∈ ledger turns, p.epoch = epoch) ↔ Adjoins (committedEpochs turns) epoch := by
  have hpublished : (ledger turns).map Payload.epoch =
      (committedEpochs turns).take 1 ++ (committedEpochs turns).map (· + 1) := by
    rw [← committedEpochs_filter]
    exact hrun.inStep.published
  rw [← List.mem_map, hpublished, List.mem_append, List.take_one, Option.mem_toList, List.mem_map]
  exact Iff.rfl

/-! ## Both payloads -/

/-- **When the execution node has been given both epochs of the window.** The next one it has always been
given, in a completed refresh. The current one is the epoch of the last completed refresh. Of this one the
execution node has been given the payload exactly if the refresh was the first one, or the refresh for the
epoch before was completed as well, or by way of exception in an attempt that failed afterwards. There are
such attempts only before the first refresh is completed. So after a gap the execution node is not given
the epoch that the chain is in. -/
theorem given_current_iff (hrun : relay.Run State.start turns state)
    (hwindow : state.window = ⟨some current, some next⟩) :
    Given turns (relay.calendar.payload next) ∧
    (committedEpochs turns).getLast? = some current.epoch ∧
    (Given turns (relay.calendar.payload current) ↔
      Adjoins (committedEpochs turns) current.epoch ∨
        ∃ turn ∈ turns, turn.commits = false ∧ relay.calendar.payload current ∈ turn.given) ∧
    ∀ turn ∈ turns, turn.commits = false → ∀ p ∈ turn.given,
      turn.before.progress.firstRun = true ∧ ∃ q answer failure, q.epoch = p.epoch + 1 ∧
        calls turn.talk = [⟨p, .ok answer⟩, ⟨q, .error failure⟩] ∧ turn.result = .error failure := by
  obtain ⟨hnext, hcurrent⟩ := hrun.faithful current next hwindow
  refine ⟨hrun.given_of_published hnext, ?_, ⟨?_, ?_⟩, ?_⟩
  · rw [← committedEpochs_filter, hrun.inStep.last, ← hrun.coherent.epochs_agree.1, hwindow]
    rfl
  · rintro ⟨turn, hturn, hgiven⟩
    cases hcommits : turn.commits with
    | false => exact Or.inr ⟨turn, hturn, hcommits, hgiven⟩
    | true =>
      obtain ⟨call, hcall, hpayload, _⟩ := mem_given_iff.mp hgiven
      have hpublished := mem_ledger hturn hcommits (List.mem_map.mpr ⟨call, hcall, hpayload⟩)
      exact Or.inl (hrun.published_iff.mp ⟨_, hpublished, rfl⟩)
  · rintro (hadjoins | ⟨turn, hturn, _, hgiven⟩)
    · -- Something was published for the epoch, and that can only be the current schedule.
      obtain ⟨p, hp, hepoch⟩ := hrun.published_iff.mpr hadjoins
      rw [← hcurrent p hp hepoch]
      exact hrun.given_of_published hp
    · exact ⟨turn, hturn, hgiven⟩
  · exact fun turn hturn hcommits p hp => given_of_uncommitted (hrun.tick_of_mem hturn) hcommits hp

/-- Where one epoch follows the other, the execution node has been given both. -/
theorem given_of_steady_head :
    ∃ state current next,
      standard.Run State.start (standard.enact State.start [repliesAt 64 1 2, repliesAt 96 2 3]) state ∧
      state.window = ⟨some current, some next⟩ ∧ current.epoch = 3 ∧
      Given (standard.enact State.start [repliesAt 64 1 2, repliesAt 96 2 3])
        (standard.calendar.payload current) ∧
      Given (standard.enact State.start [repliesAt 64 1 2, repliesAt 96 2 3])
        (standard.calendar.payload next) := by
  have hrun : standard.Run State.start
      (standard.enact State.start [repliesAt 64 1 2, repliesAt 96 2 3]) _ := enact_run _
  obtain ⟨hnext, _, hcurrent, _⟩ := given_current_iff hrun rfl
  exact ⟨_, _, _, hrun, rfl, rfl,
    hcurrent.mpr (Or.inl (Or.inr ⟨2, List.mem_cons_self, rfl⟩)), hnext⟩

/-- The head is in epoch 2, and when it is looked at again, it is in epoch 7. -/
def skipping : List Replies :=
  [⟨.ok 8, .ok (3, [⟨5, ⟨[0xcc]⟩, [12]⟩]), .ok [⟨1, ⟨[0xaa]⟩, [8]⟩], .ok true, .ok true⟩,
    ⟨.ok 28, .ok (8, [⟨8, ⟨[0xee]⟩, [32]⟩]), .ok [⟨7, ⟨[0xdd]⟩, [28]⟩], .ok true, .ok true⟩]

/-- **The execution node need not have been given the current epoch.** Nothing fails, but epochs are missed:
the payload of the epoch that the head is in is never handed over. -/
theorem not_given_after_gap :
    Relay.ofConfig shortEpochs = .ok shortRelay ∧
    ∃ state current next, shortRelay.Run State.start (shortRelay.enact State.start skipping) state ∧
      state.window = ⟨some current, some next⟩ ∧ current.epoch = 7 ∧
      shortRelay.calendar.payload current = ⟨7, ["0xdd"], 1168⟩ ∧
      (shortRelay.enact State.start skipping).map Turn.given =
        [[⟨2, ["0xaa"], 1048⟩, ⟨3, ["0xcc"], 1072⟩], [⟨8, ["0xee"], 1192⟩]] ∧
      ¬ Given (shortRelay.enact State.start skipping) (shortRelay.calendar.payload current) := by
  refine ⟨rfl, _, _, _, enact_run skipping, rfl, rfl, rfl, rfl, ?_⟩
  rintro ⟨turn, hturn, hgiven⟩
  have hmem := List.mem_flatMap.mpr ⟨turn, hturn, hgiven⟩
  revert hmem
  decide

end Relay
end DutyRelay
