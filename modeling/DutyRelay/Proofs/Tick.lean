import DutyRelay.Proofs.Refresh

/-!
# The courses of a tick

For given replies of the nodes a tick takes one of four courses: the head is not seen, no refresh is due,
a refresh is aborted, or a refresh is completed. `Relay.Course` writes them down, with what is said, the
result, and the state afterwards, and `tick_leads_iff` shows that the tick does exactly this. Everything
said later about ticks rests on it.

## Contents
- `Progress.IsDue`, `transition_eq_due_iff`, `transition_eq_settled_iff`: when a refresh is due.
- `Relay.Course`, `tick_leads_iff`, `exists_course`: the tick.
-/

namespace DutyRelay

open Dialogue

/-! ## When a refresh is due -/

namespace Progress

variable {progress : Progress} {length : EpochLength} {head : Slot} {epoch : Epoch} {firstRun : Bool}

/-- A refresh for the epoch is due: none has been completed yet, or the epoch is beyond the last one. -/
def IsDue (progress : Progress) (epoch : Epoch) : Prop :=
  progress.firstRun = true ∨ ∀ last, progress.lastProcessed = some last → last < epoch

theorem IsDue.lt {last : Epoch} (h : progress.IsDue epoch) (hfirst : progress.firstRun = false)
    (hlast : progress.lastProcessed = some last) : last < epoch := by
  rcases h with h | h
  · rw [hfirst] at h; cases h
  · exact h last hlast

theorem isDue_of_lt {last : Epoch} (hlast : progress.lastProcessed = some last) (h : last < epoch) :
    progress.IsDue epoch := by
  refine Or.inr fun last' hlast' => ?_
  obtain rfl := Option.some.inj (hlast.symm.trans hlast')
  exact h

theorem transition_of_isDue (h : progress.IsDue (length.epochOf head)) :
    progress.transition length head = .due (length.epochOf head) progress.firstRun := by
  obtain ⟨lastProcessed, headSlot, first⟩ := progress
  unfold transition
  cases first with
  | true => rfl
  | false =>
    cases lastProcessed with
    | none => rfl
    | some last => exact if_pos (h.lt rfl rfl)

theorem transition_of_not_isDue (h : ¬ progress.IsDue (length.epochOf head)) :
    progress.transition length head = .settled (length.epochOf head) := by
  obtain ⟨lastProcessed, headSlot, first⟩ := progress
  unfold transition
  cases first with
  | true => exact absurd (Or.inl rfl) h
  | false =>
    cases lastProcessed with
    | none => exact absurd (Or.inr nofun) h
    | some last =>
      have hlast : ¬ last < length.epochOf head := fun hlast => h (isDue_of_lt rfl hlast)
      exact if_neg hlast

theorem transition_eq_due_iff :
    progress.transition length head = .due epoch firstRun ↔
      epoch = length.epochOf head ∧ firstRun = progress.firstRun ∧ progress.IsDue epoch := by
  by_cases h : progress.IsDue (length.epochOf head)
  · rw [transition_of_isDue h]
    constructor
    · intro heq; cases heq; exact ⟨rfl, rfl, h⟩
    · rintro ⟨rfl, rfl, _⟩; rfl
  · rw [transition_of_not_isDue h]
    constructor
    · intro heq; cases heq
    · rintro ⟨rfl, _, hdue⟩; exact absurd hdue h

theorem transition_eq_settled_iff :
    progress.transition length head = .settled epoch ↔
      epoch = length.epochOf head ∧ ¬ progress.IsDue epoch := by
  by_cases h : progress.IsDue (length.epochOf head)
  · rw [transition_of_isDue h]
    constructor
    · intro heq; cases heq
    · rintro ⟨rfl, hdue⟩; exact absurd h hdue
  · rw [transition_of_not_isDue h]
    constructor
    · intro heq; cases heq; exact ⟨rfl, h⟩
    · rintro ⟨rfl, _⟩; rfl

end Progress

namespace Relay

variable {relay : Relay} {epoch : Epoch} {firstRun : Bool} {replies : Replies}
  {talk : List (Exchange Nodes)}

/-! ## A tick -/

/-- The state once the head has been seen. -/
def State.see (state : State) (head : Slot) : State :=
  { state with progress := state.progress.see head }

/-- **The courses that a tick may take.** For given replies, what is said, the result and the state
after the tick. -/
inductive Course (relay : Relay) (state : State) (replies : Replies) :
    List (Exchange Nodes) → Outcome TickResult → State → Prop
  | unseen {failure} (hhead : replies.head = .error failure) :
      Course relay state replies [⟨.head, .error failure⟩] (.error failure) state
  | idle {head epoch} (hhead : replies.head = .ok head)
      (hsettled : state.progress.transition relay.length head = .settled epoch) :
      Course relay state replies [⟨.head, .ok head⟩] (.ok (.idle epoch)) (state.see head)
  | aborted {head epoch firstRun failure} (hhead : replies.head = .ok head)
      (hdue : state.progress.transition relay.length head = .due epoch firstRun)
      (hfault : Step.firstFault (relay.refreshSteps state.window epoch firstRun replies) =
        some failure) :
      Course relay state replies
        (⟨.head, .ok head⟩ :: Step.talk (relay.refreshSteps state.window epoch firstRun replies))
        (.error failure) (state.see head)
  | committed {head epoch firstRun} (hhead : replies.head = .ok head)
      (hdue : state.progress.transition relay.length head = .due epoch firstRun)
      (hfault : Step.firstFault (relay.refreshSteps state.window epoch firstRun replies) = none) :
      Course relay state replies
        (⟨.head, .ok head⟩ :: Step.fullTalk (relay.refreshSteps state.window epoch firstRun replies))
        (.ok (.committed epoch (verdict firstRun replies)))
        ((state.see head).commit epoch (relay.windowAfter state.window epoch replies))

variable {state : State} {head : Slot}

theorem tickAt_leads_iff_of_settled
    (h : state.progress.transition relay.length head = .settled epoch)
    {out : Outcome TickResult × State} :
    (relay.tickAt state head).Leads talk out ↔
      talk = [] ∧ out = (.ok (.idle epoch), state.see head) := by
  unfold tickAt
  rw [h]
  exact leads_noting_iff.trans (leads_noting_iff.trans leads_done_iff)

theorem tickAt_leads_iff_of_due
    (h : state.progress.transition relay.length head = .due epoch firstRun)
    {out : Outcome TickResult × State} :
    (relay.tickAt state head).Leads talk out ↔
      ∃ refreshed, (relay.refresh state.window epoch firstRun).run.Leads talk refreshed ∧
        out = match refreshed with
          | .error failure => (.error failure, state.see head)
          | .ok (window, acknowledgement) =>
            (.ok (.committed epoch acknowledgement), (state.see head).commit epoch window) := by
  unfold tickAt
  rw [h]
  show (noting _ (noting _ (Dialogue.bind (relay.refresh state.window epoch firstRun).run _))).Leads
    talk out ↔ _
  rw [leads_noting_iff, leads_noting_iff, leads_bind_iff]
  constructor
  · rintro ⟨earlier, later, refreshed, rfl, hrefresh, hrest⟩
    cases refreshed with
    | error failure =>
      obtain ⟨rfl, rfl⟩ := leads_done_iff.mp (leads_noting_iff.mp hrest)
      exact ⟨_, by rwa [List.append_nil], rfl⟩
    | ok value =>
      obtain ⟨rfl, rfl⟩ := leads_done_iff.mp (leads_noting_iff.mp hrest)
      exact ⟨_, by rwa [List.append_nil], rfl⟩
  · rintro ⟨refreshed, hrefresh, rfl⟩
    refine ⟨talk, [], refreshed, (List.append_nil talk).symm, hrefresh, ?_⟩
    cases refreshed with
    | error failure => exact .noting .done
    | ok value => exact .noting .done

theorem course_of_settled {result : Outcome TickResult} {after : State}
    (h : state.progress.transition relay.length head = .settled epoch) :
    (relay.tickAt state head).Leads talk (result, after) ↔
      ∃ replies : Replies, replies.head = .ok head ∧
        Course relay state replies (⟨.head, .ok head⟩ :: talk) result after := by
  rw [tickAt_leads_iff_of_settled h]
  constructor
  · rintro ⟨rfl, heq⟩
    cases heq
    exact ⟨⟨.ok head, default, default, default, default⟩, rfl, .idle rfl h⟩
  · rintro ⟨replies, hhead, hcourse⟩
    cases hcourse with
    | idle _ hsettled => cases h.symm.trans hsettled; exact ⟨rfl, rfl⟩
    | aborted _ hdue => cases h.symm.trans hdue
    | committed _ hdue => cases h.symm.trans hdue

theorem course_of_due {result : Outcome TickResult} {after : State}
    (h : state.progress.transition relay.length head = .due epoch firstRun) :
    (relay.tickAt state head).Leads talk (result, after) ↔
      ∃ replies : Replies, replies.head = .ok head ∧
        Course relay state replies (⟨.head, .ok head⟩ :: talk) result after := by
  rw [tickAt_leads_iff_of_due h]
  constructor
  · rintro ⟨refreshed, hrefresh, heq⟩
    obtain ⟨replies, rfl, rfl⟩ := refresh_leads_iff.mp hrefresh
    -- The replies to the refresh leave open what was said about the head.
    refine ⟨{ replies with head := .ok head }, rfl, ?_⟩
    cases hfault : Step.firstFault (relay.refreshSteps state.window epoch firstRun replies) with
    | some failure =>
      rw [Step.conclude_of_fault hfault] at heq
      cases heq
      exact .aborted rfl h hfault
    | none =>
      rw [Step.conclude_of_none hfault] at heq
      cases heq
      rw [Step.talk_eq_fullTalk hfault]
      exact .committed rfl h hfault
  · rintro ⟨replies, hhead, hcourse⟩
    cases hcourse with
    | idle _ hsettled => cases h.symm.trans hsettled
    | aborted _ hdue hfault =>
      cases h.symm.trans hdue
      exact ⟨_, refresh_leads_iff.mpr ⟨replies, rfl, rfl⟩, by rw [Step.conclude_of_fault hfault]⟩
    | committed _ hdue hfault =>
      cases h.symm.trans hdue
      refine ⟨_, refresh_leads_iff.mpr ⟨replies, ?_, rfl⟩, by rw [Step.conclude_of_none hfault]⟩
      rw [Step.talk_eq_fullTalk hfault]

/-- Once the head is known, what is left of the tick takes one of the courses. -/
theorem tickAt_leads_iff {result : Outcome TickResult} {after : State} :
    (relay.tickAt state head).Leads talk (result, after) ↔
      ∃ replies : Replies, replies.head = .ok head ∧
        Course relay state replies (⟨.head, .ok head⟩ :: talk) result after := by
  cases hprogress : state.progress.transition relay.length head with
  | settled epoch => exact course_of_settled hprogress
  | due epoch firstRun => exact course_of_due hprogress

/-- **A tick takes one of the courses.** -/
theorem tick_leads_iff {result : Outcome TickResult} {after : State} :
    (relay.tick state).Leads talk (result, after) ↔
      ∃ replies, Course relay state replies talk result after := by
  show (asking (I := Nodes) .head _).Leads talk (result, after) ↔ _
  rw [leads_asking_iff]
  constructor
  · rintro ⟨reply, rest, rfl, hrest⟩
    cases reply with
    | error failure =>
      obtain ⟨rfl, heq⟩ := leads_done_iff.mp (leads_noting_iff.mp hrest)
      cases heq
      exact ⟨⟨.error failure, default, default, default, default⟩, .unseen rfl⟩
    | ok head =>
      obtain ⟨replies, _, hcourse⟩ := tickAt_leads_iff.mp hrest
      exact ⟨replies, hcourse⟩
  · rintro ⟨replies, hcourse⟩
    cases hcourse with
    | unseen hhead => exact ⟨.error _, [], rfl, .noting .done⟩
    | idle hhead hsettled =>
      exact ⟨.ok _, _, rfl, tickAt_leads_iff.mpr ⟨replies, hhead, .idle hhead hsettled⟩⟩
    | aborted hhead hdue hfault =>
      exact ⟨.ok _, _, rfl, tickAt_leads_iff.mpr ⟨replies, hhead, .aborted hhead hdue hfault⟩⟩
    | committed hhead hdue hfault =>
      exact ⟨.ok _, _, rfl, tickAt_leads_iff.mpr ⟨replies, hhead, .committed hhead hdue hfault⟩⟩

/-- For any replies of the nodes a tick takes some course. -/
theorem exists_course (replies : Replies) :
    ∃ talk result after, Course relay state replies talk result after := by
  cases hhead : replies.head with
  | error failure => exact ⟨_, _, _, .unseen hhead⟩
  | ok head =>
    cases hprogress : state.progress.transition relay.length head with
    | settled epoch => exact ⟨_, _, _, .idle hhead hprogress⟩
    | due epoch firstRun =>
      cases hfault : Step.firstFault (relay.refreshSteps state.window epoch firstRun replies) with
      | some failure => exact ⟨_, _, _, .aborted hhead hprogress hfault⟩
      | none => exact ⟨_, _, _, .committed hhead hprogress hfault⟩

end Relay
end DutyRelay
