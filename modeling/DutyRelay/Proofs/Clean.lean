import DutyRelay.Proofs.Refresh

/-!
# Refreshes without a fault

What the nodes have to reply so that a refresh is completed, condition by condition, and what is known of
the window that it moves on to.

## Contents
- `firstFault_nextSteps_eq_none_iff` and the like: when a part of a refresh has no fault.
- `Relay.Clean`, `clean_iff`: when the whole of it has none.
- `windowAfter_built`, `windowAfter_eq`, `windowAfter_epochs`: the two schedules of the window after it.
-/

namespace DutyRelay

namespace Relay

variable {relay : Relay} {window : Window} {epoch : Epoch} {firstRun : Bool} {replies : Replies}

/-! ## The parts of a refresh -/

theorem firstFault_nextSteps_eq_none_iff {reply : Outcome (Epoch × List Assignment)} :
    Step.firstFault (relay.nextSteps epoch reply) = none ↔
      ∃ assignments, reply = .ok (epoch + 1, assignments) ∧
        Schedule.strayFault? relay.length (epoch + 1) assignments = none := by
  cases reply with
  | error failure =>
    constructor
    · intro h; cases h
    · rintro ⟨_, h, _⟩; cases h
  | ok answer =>
    obtain ⟨next, assignments⟩ := answer
    simp only [nextSteps, Step.firstFault_ask, Step.firstFault_look_ok, Step.firstFault_nil,
      fault?_ok, Option.none_or, Option.or_none]
    by_cases hnext : next = epoch + 1
    · subst hnext
      rw [if_pos rfl, Option.none_or]
      constructor
      · intro h; exact ⟨assignments, rfl, h⟩
      · rintro ⟨_, heq, h⟩; cases heq; exact h
    · rw [if_neg hnext]
      constructor
      · intro h; cases h
      · rintro ⟨_, heq, _⟩; cases heq; exact absurd rfl hnext

theorem fault_checkFresh_eq_none_iff {cached : Schedule} {assignments : List Assignment} :
    fault? (cached.checkFresh assignments) = none ↔ cached.conflicts assignments = [] := by
  unfold Schedule.checkFresh
  cases cached.conflicts assignments with
  | nil => exact ⟨fun _ => rfl, fun _ => rfl⟩
  | cons conflict rest =>
    constructor
    · intro h; cases h
    · intro h; cases h

theorem firstFault_currentSteps_eq_none_iff {known : Option Schedule}
    {reply : Outcome (List Assignment)} :
    Step.firstFault (relay.currentSteps epoch known reply) = none ↔
      ∃ assignments, reply = .ok assignments ∧
        Schedule.strayFault? relay.length epoch assignments = none ∧
        ∀ cached, known = some cached → cached.conflicts assignments = [] := by
  cases reply with
  | error failure =>
    constructor
    · intro h; cases h
    · rintro ⟨_, h, _⟩; cases h
  | ok assignments =>
    simp only [currentSteps, Step.firstFault_ask, Step.firstFault_look_ok, Step.firstFault_nil,
      fault?_ok, Option.none_or, Option.or_none]
    rw [Option.or_eq_none_iff, Option.bind_eq_none_iff]
    constructor
    · rintro ⟨hstray, hfresh⟩
      exact ⟨assignments, rfl, hstray,
        fun cached hcached => fault_checkFresh_eq_none_iff.mp (hfresh cached hcached)⟩
    · rintro ⟨_, heq, hstray, hfresh⟩
      cases heq
      exact ⟨hstray,
        fun cached hcached => fault_checkFresh_eq_none_iff.mpr (hfresh cached hcached)⟩

theorem firstFault_freshSteps_eq_none_iff {duties : Outcome (List Assignment)} :
    Step.firstFault (relay.freshSteps window epoch firstRun duties) = none ↔
      (relay.revalidates firstRun (window.staged? epoch) = true →
        ∃ assignments, duties = .ok assignments ∧
          Schedule.strayFault? relay.length epoch assignments = none ∧
          ∀ cached, window.staged? epoch = some cached → cached.conflicts assignments = []) := by
  unfold freshSteps
  by_cases h : relay.revalidates firstRun (window.staged? epoch) = true
  · rw [if_pos h, firstFault_currentSteps_eq_none_iff]
    exact ⟨fun hclean _ => hclean, fun hclean => hclean h⟩
  · rw [if_neg h]
    exact ⟨fun _ hfetch => absurd hfetch h, fun _ => rfl⟩

theorem firstFault_publishSteps {schedule : Schedule} {reply : Outcome Bool} :
    Step.firstFault (relay.publishSteps (some schedule) reply) = fault? reply := by
  show Step.firstFault [_] = _
  rw [Step.firstFault_ask, Step.firstFault_nil, Option.or_none]

theorem firstFault_windowSteps {current next : Schedule} {published : Outcome Bool × Outcome Bool} :
    Step.firstFault (relay.windowSteps firstRun ⟨some current, some next⟩ published) =
      (if firstRun then fault? published.1 else none).or (fault? published.2) := by
  unfold windowSteps
  rw [Step.firstFault_append, firstFault_publishSteps]
  cases firstRun with
  | true => rw [if_pos rfl, if_pos rfl, firstFault_publishSteps]
  | false => rfl

theorem firstFault_windowSteps_eq_none_iff {current next : Schedule}
    {published : Outcome Bool × Outcome Bool} :
    Step.firstFault (relay.windowSteps firstRun ⟨some current, some next⟩ published) = none ↔
      (firstRun = true → ∃ answer, published.1 = .ok answer) ∧ ∃ answer, published.2 = .ok answer := by
  rw [firstFault_windowSteps, Option.or_eq_none_iff, fault?_eq_none_iff]
  refine and_congr_left fun _ => ?_
  cases firstRun with
  | true =>
    rw [if_pos rfl, fault?_eq_none_iff]
    exact ⟨fun h _ => h, fun h => h rfl⟩
  | false => exact ⟨fun _ => nofun, fun _ => rfl⟩

/-! ## The window after a refresh -/

theorem built?_eq_some_iff {reply : Outcome (List Assignment)} {schedule : Schedule} :
    relay.built? epoch reply = some schedule ↔
      ∃ assignments, reply = .ok assignments ∧
        Schedule.build relay.length epoch assignments = .ok schedule := by
  cases reply with
  | error failure =>
    constructor
    · intro h; cases h
    · rintro ⟨_, h, _⟩; cases h
  | ok assignments =>
    show (Schedule.build relay.length epoch assignments).toOption = some schedule ↔ _
    cases hbuild : Schedule.build relay.length epoch assignments with
    | error failure =>
      constructor
      · intro h; cases h
      · rintro ⟨_, heq, h⟩; cases heq; rw [hbuild] at h; cases h
    | ok built =>
      constructor
      · intro h; cases h; exact ⟨assignments, rfl, hbuild⟩
      · rintro ⟨_, heq, h⟩; cases heq; rw [hbuild] at h; cases h; rfl

/-- **Once everything is fetched, both schedules are there.** What was replied about the next epoch
amounts to the next one. The current one is the staged one, or else what was replied about the epoch
amounts to it. -/
theorem windowAfter_built
    (hnext : Step.firstFault (relay.nextSteps epoch replies.upcoming) = none)
    (hfresh : Step.firstFault (relay.freshSteps window epoch firstRun replies.duties) = none) :
    ∃ current next, relay.windowAfter window epoch replies = ⟨some current, some next⟩ ∧
      (window.staged? epoch = some current ∨ window.staged? epoch = none ∧
        ∃ assignments, replies.duties = .ok assignments ∧
          Schedule.build relay.length epoch assignments = .ok current) ∧
      ∃ assignments, replies.upcoming = .ok (epoch + 1, assignments) ∧
        Schedule.build relay.length (epoch + 1) assignments = .ok next := by
  obtain ⟨assignments, hupcoming, _⟩ := firstFault_nextSteps_eq_none_iff.mp hnext
  obtain ⟨next, hnext⟩ := fault?_eq_none_iff.mp (follows_fetchNext.fault_eq _ ▸ hnext)
  obtain ⟨fresh, hfresh⟩ := fault?_eq_none_iff.mp (follows_fresh.fault_eq _ ▸ hfresh)
  obtain ⟨hbuiltNext, _⟩ := nextFrom_eq_ok hnext
  obtain ⟨current, _, hcurrent, _⟩ := current_of_freshFrom hfresh
  refine ⟨current, next, ?_, ?_, assignments, hupcoming, ?_⟩
  · rw [windowAfter, moved, hcurrent, hbuiltNext]
  · cases hstaged : window.staged? epoch with
    | some staged =>
      rw [hstaged] at hcurrent
      exact Or.inl hcurrent
    | none =>
      -- What was fetched takes the place of a staged schedule.
      rw [hstaged] at hcurrent
      exact Or.inr ⟨rfl, built?_eq_some_iff.mp hcurrent⟩
  · obtain ⟨_, heq, hbuild⟩ := built?_eq_some_iff.mp hbuiltNext
    rw [hupcoming] at heq
    cases heq
    exact hbuild

/-- The same for schedules that some assignments amount to. -/
theorem windowAfter_eq
    (hnext : Step.firstFault (relay.nextSteps epoch replies.upcoming) = none)
    (hfresh : Step.firstFault (relay.freshSteps window epoch firstRun replies.duties) = none) :
    ∃ current next, relay.windowAfter window epoch replies = ⟨some current, some next⟩ ∧
      (window.staged? epoch = some current ∨
        window.staged? epoch = none ∧ current.IsOf relay.length epoch) ∧
      next.IsOf relay.length (epoch + 1) := by
  obtain ⟨current, next, hwindow, hcurrent, assignments, _, hbuild⟩ := windowAfter_built hnext hfresh
  refine ⟨current, next, hwindow, hcurrent.imp id ?_, assignments, hbuild⟩
  rintro ⟨hstaged, fetched, _, hfetched⟩
  exact ⟨hstaged, fetched, hfetched⟩

/-- The two schedules are of the current epoch and of the next one. -/
theorem windowAfter_epochs
    (hnext : Step.firstFault (relay.nextSteps epoch replies.upcoming) = none)
    (hfresh : Step.firstFault (relay.freshSteps window epoch firstRun replies.duties) = none) :
    ∃ current next, relay.windowAfter window epoch replies = ⟨some current, some next⟩ ∧
      current.epoch = epoch ∧ next.epoch = epoch + 1 := by
  obtain ⟨current, next, hwindow, hcurrent, hof⟩ := windowAfter_eq hnext hfresh
  refine ⟨current, next, hwindow, ?_, hof.epoch_eq⟩
  rcases hcurrent with hstaged | ⟨_, hfetched⟩
  · exact (Window.staged?_eq_some hstaged).1
  · exact hfetched.epoch_eq

/-! ## The whole refresh -/

/-- What the nodes reply lets the refresh go through. -/
structure Clean (relay : Relay) (window : Window) (epoch : Epoch) (firstRun : Bool)
    (replies : Replies) : Prop where
  upcoming : ∃ assignments, replies.upcoming = .ok (epoch + 1, assignments) ∧
    Schedule.strayFault? relay.length (epoch + 1) assignments = none
  duties : relay.revalidates firstRun (window.staged? epoch) = true →
    ∃ assignments, replies.duties = .ok assignments ∧
      Schedule.strayFault? relay.length epoch assignments = none ∧
      ∀ cached, window.staged? epoch = some cached → cached.conflicts assignments = []
  current : firstRun = true → ∃ answer, replies.current = .ok answer
  next : ∃ answer, replies.next = .ok answer

theorem clean_iff :
    Step.firstFault (relay.refreshSteps window epoch firstRun replies) = none ↔
      relay.Clean window epoch firstRun replies := by
  unfold refreshSteps
  rw [Step.firstFault_append, Step.firstFault_append, Option.or_eq_none_iff, Option.or_eq_none_iff]
  constructor
  · rintro ⟨hnext, hfresh, hpublish⟩
    -- Which payloads are published depends on the window, so it has to be known first.
    obtain ⟨current, next, hwindow, _⟩ := windowAfter_eq hnext hfresh
    rw [hwindow, firstFault_windowSteps_eq_none_iff] at hpublish
    exact ⟨firstFault_nextSteps_eq_none_iff.mp hnext, firstFault_freshSteps_eq_none_iff.mp hfresh,
      hpublish.1, hpublish.2⟩
  · rintro ⟨hupcoming, hduties, hcurrent, hnext⟩
    have hsteps := firstFault_nextSteps_eq_none_iff.mpr hupcoming
    have hfresh := firstFault_freshSteps_eq_none_iff.mpr hduties
    obtain ⟨current, next, hwindow, _⟩ := windowAfter_eq hsteps hfresh
    rw [hwindow]
    exact ⟨hsteps, hfresh, firstFault_windowSteps_eq_none_iff.mpr ⟨hcurrent, hnext⟩⟩

end Relay
end DutyRelay
