import DutyRelay.Proofs.Publication

/-!
# What was answered before something is published

A refresh hands nothing to the execution node before it has heard all that it needs from the beacon node
and has looked at it. This file picks the answers about duties out of what was said in a tick, and states
what is known about them, and about the two schedules, as soon as a payload is handed over.

## Contents
- `upcomingAnswers`, `dutyAnswers`: the answers in what was said; `mem_upcomingAnswers_iff`, `mem_dutyAnswers_iff`.
- `talk_of_fetched`, `upcomingAnswers_of_fetched`, `dutyAnswers_of_fetched`: those of a refresh.
- `Relay.Prepared`, `prepared_of_fetched`: what has been heard and looked at before publishing.
- `prepared_of_calls`: nothing is published unprepared, and no payload out of order.
-/

namespace DutyRelay

/-! ## Answers in what was said -/

/-- The answer about the next epoch that an exchange is, if it is one. -/
def Exchange.upcoming? : Exchange Nodes → Option (Epoch × List Assignment)
  | ⟨.head, _⟩ => none
  | ⟨.upcoming, reply⟩ => reply.toOption
  | ⟨.duties _, _⟩ => none
  | ⟨.insert _, _⟩ => none

/-- The answer about the duties of an epoch that an exchange is, if it is one. -/
def Exchange.duties? (epoch : Epoch) : Exchange Nodes → Option (List Assignment)
  | ⟨.head, _⟩ => none
  | ⟨.upcoming, _⟩ => none
  | ⟨.duties asked, reply⟩ => if asked = epoch then reply.toOption else none
  | ⟨.insert _, _⟩ => none

/-- The answers about the next epoch, each with the epoch that it is for. -/
def upcomingAnswers (talk : List (Exchange Nodes)) : List (Epoch × List Assignment) :=
  talk.filterMap Exchange.upcoming?

/-- The answers to questions for the duties of an epoch. -/
def dutyAnswers (epoch : Epoch) (talk : List (Exchange Nodes)) : List (List Assignment) :=
  talk.filterMap (Exchange.duties? epoch)

theorem mem_upcomingAnswers_iff {talk : List (Exchange Nodes)} {answer : Epoch × List Assignment} :
    answer ∈ upcomingAnswers talk ↔ ⟨.upcoming, .ok answer⟩ ∈ talk := by
  unfold upcomingAnswers
  rw [List.mem_filterMap]
  constructor
  · rintro ⟨⟨query, reply⟩, hmem, heq⟩
    cases query with
    | upcoming =>
      cases reply with
      | error failure => cases heq
      | ok answer' => cases heq; exact hmem
    | head => cases heq
    | duties _ => cases heq
    | insert _ => cases heq
  · intro hmem
    exact ⟨_, hmem, rfl⟩

theorem mem_dutyAnswers_iff {talk : List (Exchange Nodes)} {epoch : Epoch} {answer : List Assignment} :
    answer ∈ dutyAnswers epoch talk ↔ ⟨.duties epoch, .ok answer⟩ ∈ talk := by
  unfold dutyAnswers
  rw [List.mem_filterMap]
  constructor
  · rintro ⟨⟨query, reply⟩, hmem, heq⟩
    cases query with
    | duties asked =>
      by_cases hasked : asked = epoch
      · subst hasked
        cases reply with
        | error failure => simp [Exchange.duties?, Except.toOption] at heq
        | ok answer' =>
          have hanswer : answer' = answer := by simpa [Exchange.duties?, Except.toOption] using heq
          rw [← hanswer]
          exact hmem
      · simp [Exchange.duties?, hasked] at heq
    | head => cases heq
    | upcoming => cases heq
    | insert _ => cases heq
  · intro hmem
    exact ⟨_, hmem, by simp [Exchange.duties?, Except.toOption]⟩

namespace Relay

variable {relay : Relay} {state : State} {window : Window} {epoch : Epoch} {firstRun : Bool}
  {replies : Replies} {current next : Schedule} {talk : List (Exchange Nodes)} {head : Slot}

/-! ## The answers of a refresh -/

/-- Payloads are all that is said in the publishing part. -/
theorem filterMap_windowSteps {α : Type} {f : Exchange Nodes → Option α}
    {published : Outcome Bool × Outcome Bool} (hf : ∀ payload reply, f ⟨.insert payload, reply⟩ = none) :
    (Step.talk (relay.windowSteps firstRun window published)).filterMap f = [] := by
  have hpublish : ∀ schedule reply,
      (Step.fullTalk (relay.publishSteps schedule reply)).filterMap f = [] := by
    intro schedule reply
    cases schedule with
    | none => rfl
    | some schedule => exact List.filterMap_cons_none (hf _ _)
  have hfull : (Step.fullTalk (relay.windowSteps firstRun window published)).filterMap f = [] := by
    unfold windowSteps
    rw [Step.fullTalk, List.filterMap_append, List.filterMap_append, List.append_eq_nil_iff]
    refine ⟨?_, hpublish _ _⟩
    cases firstRun with
    | true => exact hpublish _ _
    | false => rfl
  -- What is said is the beginning of all that might be said.
  obtain ⟨later, hlater⟩ := Step.talk_prefix (relay.windowSteps firstRun window published)
  rw [← hlater, List.filterMap_append] at hfull
  exact (List.append_eq_nil_iff.mp hfull).1

theorem fullTalk_fetchSteps :
    Step.fullTalk (relay.fetchSteps window epoch firstRun replies) =
      ⟨.upcoming, replies.upcoming⟩ ::
        if relay.revalidates firstRun (window.staged? epoch) then
          [⟨.duties epoch, replies.duties⟩]
        else [] := by
  unfold fetchSteps freshSteps
  by_cases hfetch : relay.revalidates firstRun (window.staged? epoch) = true
  · rw [if_pos hfetch, if_pos hfetch]; rfl
  · rw [if_neg hfetch, if_neg hfetch]; rfl

/-- What is said in a refresh where everything is fetched: the questions for duties, and then what is said
in the publishing part. -/
theorem talk_of_fetched
    (h : Step.firstFault (relay.fetchSteps window epoch firstRun replies) = none) :
    Step.talk (relay.refreshSteps window epoch firstRun replies) =
      (⟨.upcoming, replies.upcoming⟩ ::
        if relay.revalidates firstRun (window.staged? epoch) then
          [⟨.duties epoch, replies.duties⟩]
        else []) ++
      Step.talk (relay.windowSteps firstRun (relay.windowAfter window epoch replies)
        (replies.current, replies.next)) := by
  rw [refreshSteps_eq, Step.talk_append_of_none h, Step.talk_eq_fullTalk h, fullTalk_fetchSteps]

theorem upcomingAnswers_of_fetched {answer : Epoch × List Assignment} {reply : Outcome Slot}
    (h : Step.firstFault (relay.fetchSteps window epoch firstRun replies) = none)
    (hanswer : replies.upcoming = .ok answer) :
    upcomingAnswers
      (⟨.head, reply⟩ :: Step.talk (relay.refreshSteps window epoch firstRun replies)) = [answer] := by
  rw [talk_of_fetched h, hanswer]
  unfold upcomingAnswers
  rw [List.filterMap_cons_none rfl, List.filterMap_append, filterMap_windowSteps fun _ _ => rfl,
    List.append_nil]
  split <;> rfl

theorem dutyAnswers_of_fetched {answer : List Assignment} {reply : Outcome Slot}
    (h : Step.firstFault (relay.fetchSteps window epoch firstRun replies) = none)
    (hfetch : relay.revalidates firstRun (window.staged? epoch) = true)
    (hanswer : replies.duties = .ok answer) :
    dutyAnswers epoch
      (⟨.head, reply⟩ :: Step.talk (relay.refreshSteps window epoch firstRun replies)) = [answer] := by
  rw [talk_of_fetched h, hanswer, if_pos hfetch]
  unfold dutyAnswers
  rw [List.filterMap_cons_none rfl, List.filterMap_append, filterMap_windowSteps fun _ _ => rfl,
    List.append_nil, List.filterMap_cons_none rfl]
  have hsame : Exchange.duties? epoch ⟨.duties epoch, .ok answer⟩ = some answer := if_pos rfl
  rw [List.filterMap_cons_some hsame, List.filterMap_nil]

/-! ## Prepared to publish -/

/-- What has been heard and looked at before anything is published. There was one answer about the next
epoch, and it amounts to the schedule `next`. Where the duties of the current epoch are fetched, there was
one answer about them, a schedule can be built from it, and it does not conflict with a schedule at hand.
The schedule `current` is the one at hand, or else the one that this answer amounts to. -/
structure Prepared (relay : Relay) (before : State) (epoch : Epoch) (talk : List (Exchange Nodes))
    (current next : Schedule) : Prop where
  upcoming : ∃ assignments, upcomingAnswers talk = [(epoch + 1, assignments)] ∧
    Schedule.build relay.length (epoch + 1) assignments = .ok next
  duties : relay.revalidates before.progress.firstRun (before.window.staged? epoch) = true →
    ∃ assignments fresh, dutyAnswers epoch talk = [assignments] ∧
      Schedule.build relay.length epoch assignments = .ok fresh ∧
      ∀ cached, before.window.staged? epoch = some cached → cached.checkFresh assignments = .ok ()
  current : before.window.staged? epoch = some current ∨ before.window.staged? epoch = none ∧
    ∃ assignments, dutyAnswers epoch talk = [assignments] ∧
      Schedule.build relay.length epoch assignments = .ok current

theorem Prepared.epoch_current (h : relay.Prepared state epoch talk current next) :
    current.epoch = epoch := by
  rcases h.current with hstaged | ⟨_, _, _, hbuild⟩
  · exact (Window.staged?_eq_some hstaged).1
  · exact Schedule.epoch_of_build hbuild

theorem Prepared.epoch_next (h : relay.Prepared state epoch talk current next) :
    next.epoch = epoch + 1 := by
  obtain ⟨_, _, hbuild⟩ := h.upcoming
  exact Schedule.epoch_of_build hbuild

/-- **Once everything is fetched, the relay is prepared** to publish the two schedules of the window that
it moves on to. -/
theorem prepared_of_fetched (reply : Outcome Slot) (hfirst : firstRun = state.progress.firstRun)
    (h : Step.firstFault (relay.fetchSteps state.window epoch firstRun replies) = none) :
    ∃ current next, relay.windowAfter state.window epoch replies = ⟨some current, some next⟩ ∧
      relay.Prepared state epoch
        (⟨.head, reply⟩ :: Step.talk (relay.refreshSteps state.window epoch firstRun replies))
        current next := by
  subst hfirst
  obtain ⟨hnext, hfresh⟩ := fetched_iff.mp h
  obtain ⟨current, next, hwindow, hcurrent, assignments, hupcoming, hbuild⟩ :=
    windowAfter_built hnext hfresh
  have hduties := firstFault_freshSteps_eq_none_iff.mp hfresh
  refine ⟨current, next, hwindow, ?_, ?_, hcurrent.imp id ?_⟩
  · exact ⟨assignments, upcomingAnswers_of_fetched h hupcoming, hbuild⟩
  · intro hfetch
    obtain ⟨fetched, hreply, hstray, hconflicts⟩ := hduties hfetch
    obtain ⟨fresh, hfresh, _⟩ := Schedule.build_of_strayFault_none hstray
    refine ⟨fetched, fresh, dutyAnswers_of_fetched h hfetch hreply, hfresh, fun cached hcached => ?_⟩
    obtain ⟨_, hcheck⟩ :=
      fault?_eq_none_iff.mp (fault_checkFresh_eq_none_iff.mpr (hconflicts cached hcached))
    exact hcheck
  · rintro ⟨hstaged, fetched, hreply, hfetched⟩
    -- Nothing is staged, so the duties of the epoch were fetched.
    have hfetch : relay.revalidates state.progress.firstRun (state.window.staged? epoch) = true := by
      unfold revalidates
      rw [hstaged, Option.isNone_none, Bool.or_true, Bool.true_or]
    exact ⟨hstaged, fetched, dutyAnswers_of_fetched h hfetch hreply, hfetched⟩

/-- The payloads of the publishing part are the beginning of what is to be published. -/
theorem windowCalls_prefix :
    (relay.windowCalls firstRun current next replies).map Call.payload <+:
      (if firstRun then [relay.calendar.payload current] else []) ++ [relay.calendar.payload next] := by
  unfold windowCalls
  cases firstRun with
  | false => exact List.prefix_rfl
  | true =>
    cases replies.current with
    | ok answer => exact List.prefix_rfl
    | error failure => exact List.prefix_append _ _

/-- **Nothing is published unprepared**, and the payloads of a refresh are the beginning of these: the
current epoch, at the first refresh only, and the next one. -/
theorem prepared_of_calls (reply : Outcome Slot) (hfirst : firstRun = state.progress.firstRun)
    (h : calls (Step.talk (relay.refreshSteps state.window epoch firstRun replies)) ≠ []) :
    ∃ current next,
      relay.Prepared state epoch
        (⟨.head, reply⟩ :: Step.talk (relay.refreshSteps state.window epoch firstRun replies))
        current next ∧
      (calls (Step.talk (relay.refreshSteps state.window epoch firstRun replies))).map Call.payload <+:
        (if firstRun then [relay.calendar.payload current] else []) ++ [relay.calendar.payload next] := by
  cases hfetch : Step.firstFault (relay.fetchSteps state.window epoch firstRun replies) with
  | some failure => exact absurd (calls_of_fault hfetch) h
  | none =>
    obtain ⟨current, next, hwindow, hprepared⟩ := prepared_of_fetched reply hfirst hfetch
    refine ⟨current, next, hprepared, ?_⟩
    rw [calls_of_fetched hfetch hwindow]
    exact windowCalls_prefix

end Relay
end DutyRelay
