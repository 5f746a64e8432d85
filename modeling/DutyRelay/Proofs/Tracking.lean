import DutyRelay.Proofs.Tick
import Mathlib.Data.List.Induction

/-!
# Progress after any calls

Progress is looked at and moved on by others, in whatever order they like: a refresh may be recorded without a look
at the head, twice, or for an epoch that lies behind. Of all these calls progress keeps the last head and the greatest
epoch, and whether any refresh was recorded at all. The latter is kept twice, as the first run and as the absence of
a last epoch; `Reflects` says that the two never come apart, and from it follows what a look at the head comes to.

## Contents
- `Progress.observe`, `Progress.Call`, `Progress.after`, `Progress.reached`: calls one after another.
- `committed`, `observed`: what the calls were given.
- `Reflects`, `Reflects.after`, `reflects_reached`: what is kept of them.
- `Reflects.isDue_iff`: when a refresh is due.
- `reached_observe`: all of it together; `unruly`: records that come out of order.
-/

namespace DutyRelay

namespace Progress

/-! ## Calls -/

/-- A look at the head: what it amounts to, and the progress with the head on record. -/
def observe (progress : Progress) (length : EpochLength) (head : Slot) : Transition × Progress :=
  (progress.transition length head, progress.see head)

/-- What may be called for: a look at the head, or a record of a refresh. -/
inductive Call where
  | observe (head : Slot)
  | commit (epoch : Epoch)
deriving DecidableEq, Repr

/-- The progress after a call. -/
def after (length : EpochLength) (progress : Progress) : Call → Progress
  | .observe head => (progress.observe length head).2
  | .commit epoch => progress.commit epoch

/-- The progress that is reached from the start by calls one after another. -/
def reached (length : EpochLength) (calls : List Call) : Progress := calls.foldl (after length) start

/-- The epochs whose refreshes were recorded. -/
def committed (calls : List Call) : List Epoch :=
  calls.filterMap fun call => match call with
    | .commit epoch => some epoch
    | .observe _ => none

/-- The heads that were looked at. -/
def observed (calls : List Call) : List Slot :=
  calls.filterMap fun call => match call with
    | .observe head => some head
    | .commit _ => none

variable {progress : Progress} {length : EpochLength} {calls : List Call} {call : Call} {head : Slot}
  {epoch : Epoch}

theorem reached_append (calls : List Call) (call : Call) :
    reached length (calls ++ [call]) = after length (reached length calls) call := by
  unfold reached
  rw [List.foldl_append, List.foldl_cons, List.foldl_nil]

theorem committed_append (earlier later : List Call) :
    committed (earlier ++ later) = committed earlier ++ committed later := List.filterMap_append

theorem observed_append (earlier later : List Call) :
    observed (earlier ++ later) = observed earlier ++ observed later := List.filterMap_append

/-! ## What is kept -/

/-- The greatest epoch of some is the greater one of the last and the greatest before it. -/
theorem max?_concat (epochs : List Epoch) (epoch : Epoch) :
    (epochs ++ [epoch]).max? = some ((epochs.max?.map (max · epoch)).getD epoch) := by
  cases epochs with
  | nil => rfl
  | cons first rest =>
    show some ((rest ++ [epoch]).foldl max first) = some (max (rest.foldl max first) epoch)
    rw [List.foldl_append, List.foldl_cons, List.foldl_nil]

/-- Progress keeps the greatest epoch that was recorded, whether there was one, and the last head. -/
structure Reflects (progress : Progress) (calls : List Call) : Prop where
  last : progress.lastProcessed = (committed calls).max?
  first : progress.firstRun = (committed calls).isEmpty
  head : progress.headSlot = (observed calls).getLast?.getD 0

theorem reflects_start : start.Reflects [] := ⟨rfl, rfl, rfl⟩

/-- **Every call is reflected**, a look at the head by the head alone. -/
theorem Reflects.after (h : progress.Reflects calls) (call : Call) :
    (progress.after length call).Reflects (calls ++ [call]) := by
  cases call with
  | observe head =>
    have hcommitted : committed (calls ++ [.observe head]) = committed calls :=
      (committed_append _ _).trans (List.append_nil _)
    have hobserved : observed (calls ++ [.observe head]) = observed calls ++ [head] := observed_append _ _
    constructor
    · rw [hcommitted]
      exact h.last
    · rw [hcommitted]
      exact h.first
    · rw [hobserved, List.getLast?_concat]
      rfl
  | commit epoch =>
    have hcommitted : committed (calls ++ [.commit epoch]) = committed calls ++ [epoch] := committed_append _ _
    have hobserved : observed (calls ++ [.commit epoch]) = observed calls :=
      (observed_append _ _).trans (List.append_nil _)
    constructor
    · rw [hcommitted, max?_concat, ← h.last]
      show (progress.commit epoch).lastProcessed = _
      unfold commit
      cases progress.lastProcessed with
      | none => rfl
      | some last => rfl
    · rw [hcommitted]
      show false = _
      cases committed calls with
      | nil => rfl
      | cons first rest => rfl
    · rw [hobserved]
      exact h.head

/-- **Any calls are reflected.** -/
theorem reflects_reached (length : EpochLength) (calls : List Call) :
    (reached length calls).Reflects calls := by
  -- The calls are taken off from the end, since it is the last one that acts on what the others have left.
  induction calls using List.reverseRecOn with
  | nil => exact reflects_start
  | append_singleton earlier call ih =>
    rw [reached_append]
    exact ih.after call

/-! ## What a look at the head comes to -/

theorem Reflects.firstRun_iff (h : progress.Reflects calls) :
    progress.firstRun = true ↔ committed calls = [] := by
  rw [h.first, List.isEmpty_iff]

/-- It is the first run as long as there is no last epoch. -/
theorem Reflects.lastProcessed_eq_none_iff (h : progress.Reflects calls) :
    progress.lastProcessed = none ↔ progress.firstRun = true := by
  rw [h.firstRun_iff, h.last, List.max?_eq_none_iff]

/-- **When a refresh is due**: as long as none was recorded, and then for every epoch beyond the greatest one. -/
theorem Reflects.isDue_iff (h : progress.Reflects calls) :
    progress.IsDue epoch ↔ committed calls = [] ∨ ∃ last, (committed calls).max? = some last ∧ last < epoch := by
  unfold IsDue
  rw [h.firstRun_iff, h.last]
  constructor
  · rintro (hnone | hlast)
    · exact Or.inl hnone
    · cases hmax : (committed calls).max? with
      | none => exact Or.inl (List.max?_eq_none_iff.mp hmax)
      | some last => exact Or.inr ⟨last, rfl, hlast last hmax⟩
  · rintro (hnone | ⟨last, hmax, hlt⟩)
    · exact Or.inl hnone
    · refine Or.inr fun last' hlast' => ?_
      obtain rfl := Option.some.inj (hmax.symm.trans hlast')
      exact hlt

theorem isDue_transition_iff :
    (progress.transition length head).isDue = true ↔ progress.IsDue (length.epochOf head) := by
  by_cases h : progress.IsDue (length.epochOf head)
  · rw [transition_of_isDue h]
    exact ⟨fun _ => h, fun _ => rfl⟩
  · rw [transition_of_not_isDue h]
    exact ⟨nofun, fun hdue => absurd hdue h⟩

theorem epoch_transition : (progress.transition length head).epoch = length.epochOf head := by
  by_cases h : progress.IsDue (length.epochOf head)
  · rw [transition_of_isDue h]
    rfl
  · rw [transition_of_not_isDue h]
    rfl

/-- **What any calls come to.** The last epoch is the greatest one recorded, it is the first run exactly if none was
recorded, and the head is the one looked at last. A further look at the head changes the head and nothing else. It
finds that a refresh is due exactly if none was recorded or the epoch of the head is beyond the greatest one, and says
that it is the first run exactly if none was recorded. A last epoch is never missing after the first run. -/
theorem reached_observe (length : EpochLength) (calls : List Call) :
    (reached length calls).lastProcessed = (committed calls).max? ∧
    ((reached length calls).firstRun = true ↔ committed calls = []) ∧
    (reached length calls).headSlot = (observed calls).getLast?.getD 0 ∧
    (∀ head,
      ((reached length calls).observe length head).2 = { reached length calls with headSlot := head } ∧
      ((reached length calls).observe length head).1.epoch = head / length.slots ∧
      (((reached length calls).observe length head).1.isDue = true ↔
        committed calls = [] ∨ ∃ last, (committed calls).max? = some last ∧ last < head / length.slots) ∧
      ∀ epoch firstRun, ((reached length calls).observe length head).1 = .due epoch firstRun →
        (firstRun = true ↔ committed calls = [])) ∧
    ¬ ((reached length calls).firstRun = false ∧ (reached length calls).lastProcessed = none) := by
  have hreflects := reflects_reached length calls
  refine ⟨hreflects.last, hreflects.firstRun_iff, hreflects.head, fun head => ⟨rfl, epoch_transition, ?_, ?_⟩, ?_⟩
  · exact isDue_transition_iff.trans hreflects.isDue_iff
  · intro epoch firstRun hdue
    obtain ⟨_, rfl, _⟩ := transition_eq_due_iff.mp hdue
    exact hreflects.firstRun_iff
  · rintro ⟨hfirst, hlast⟩
    rw [hreflects.lastProcessed_eq_none_iff.mp hlast] at hfirst
    cases hfirst

/-- Two records before any look at the head, and one for an epoch that lies behind. -/
def unruly : List Call := [.commit 3, .commit 5, .observe 70, .commit 2, .observe 40]

/-- Epoch 5 stands. So with four slots per epoch a refresh is due again from slot 24 on, and not as a first run. -/
theorem unruly_observe :
    (reached ⟨4, by decide⟩ unruly).lastProcessed = some 5 ∧
    (reached ⟨4, by decide⟩ unruly).headSlot = 40 ∧
    ¬ ((reached ⟨4, by decide⟩ unruly).observe ⟨4, by decide⟩ 23).1.isDue = true ∧
    ∃ firstRun, ((reached ⟨4, by decide⟩ unruly).observe ⟨4, by decide⟩ 24).1 = .due 6 firstRun ∧
      ¬ firstRun = true := by
  obtain ⟨hlast, _, hhead, hobserve, _⟩ := reached_observe ⟨4, by decide⟩ unruly
  obtain ⟨_, _, hdue, _⟩ := hobserve 23
  obtain ⟨_, _, _, hfirst⟩ := hobserve 24
  refine ⟨hlast.trans (by decide), hhead.trans (by decide), ?_, false, by decide, ?_⟩
  · rw [hdue]
    rintro (hnone | ⟨last, hmax, hlt⟩)
    · exact absurd hnone (by decide)
    · obtain rfl : 5 = last := Option.some.inj ((by decide : some 5 = (committed unruly).max?).trans hmax)
      exact absurd hlt (by decide)
  · rw [hfirst 6 false (by decide)]
    decide

end Progress
end DutyRelay
