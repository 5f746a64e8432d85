import DutyRelay.Proofs.Run

/-!
# When a tick completes a refresh, and which failure comes first

A tick completes a refresh exactly if the head is seen, a refresh is due, and nothing goes wrong at any
step. Otherwise there is nothing to do, or the tick fails with the first fault, in the order of the steps,
and asks nothing more. A schedule is never missing when the window moves on, so the failure that the relay
has for this case never arises.

## Contents
- `Relay.CommitsAt`: what has to be the case for a refresh to be completed.
- `Relay.tickSteps`: the steps of a tick in order.
- `Step.IsFirst`, `Step.IsFirst.talk_eq`: the first fault, and what is said up to it.
- `OwnFailure`, `accounted_tickSteps`: the failures that no node has replied.
- `promote_of_fetched`: the window always moves on.
- `tick_precedence`; `prepared`: a relay that has something to compare with.
-/

namespace DutyRelay

/-! ## The first fault -/

namespace Step

variable {steps : List Step} {failure : Failure}

/-- The step is the first one with a fault: it comes after `earlier`, where no step has one. -/
structure IsFirst (steps earlier : List Step) (step : Step) (failure : Failure) : Prop where
  splits : ∃ later, steps = earlier ++ step :: later
  earlier : ∀ s ∈ earlier, s.fault = none
  fault : step.fault = some failure

theorem firstFault_eq_some_iff :
    firstFault steps = some failure ↔ ∃ earlier step, IsFirst steps earlier step failure := by
  unfold firstFault
  rw [List.findSome?_eq_some_iff]
  constructor
  · rintro ⟨earlier, step, later, heq, hfault, hearlier⟩
    exact ⟨earlier, step, ⟨later, heq⟩, hearlier, hfault⟩
  · rintro ⟨earlier, step, ⟨later, heq⟩, hearlier, hfault⟩
    exact ⟨earlier, step, later, heq, hfault, hearlier⟩

/-- Nothing is said after the step with the first fault. -/
theorem IsFirst.talk_eq {earlier : List Step} {step : Step}
    (h : IsFirst steps earlier step failure) : talk steps = fullTalk (earlier ++ [step]) := by
  obtain ⟨⟨later, rfl⟩, hearlier, hfault⟩ := h
  have hnone : firstFault earlier = none := List.findSome?_eq_none_iff.mpr hearlier
  have htaken : taken (step :: later) = [step] := by
    unfold taken
    rw [hfault]
    rfl
  unfold talk
  rw [taken_append_of_none hnone, htaken]
  unfold fullTalk
  rw [List.filterMap_append, List.filterMap_append]
  exact congrArg (· ++ _) (talk_eq_fullTalk hnone)

end Step

namespace Relay

variable {relay : Relay} {state : State} {replies : Replies} {window : Window} {epoch : Epoch}
  {firstRun : Bool} {failure : Failure} {talk : List (Exchange Nodes)} {result : Outcome TickResult} {after : State}

/-! ## Completing a refresh -/

/-- What has to be the case for a refresh to be completed. The current epoch is fetched at the first
refresh, when no schedule of it is at hand, and always if the settings say so. -/
structure CommitsAt (relay : Relay) (state : State) (replies : Replies) (epoch : Epoch) : Prop where
  head : ∃ head, replies.head = .ok head ∧ relay.length.epochOf head = epoch
  due : state.progress.IsDue epoch
  upcoming : ∃ assignments, replies.upcoming = .ok (epoch + 1, assignments) ∧
    ∀ assignment ∈ assignments, ∀ slot ∈ assignment.slots, relay.length.epochOf slot = epoch + 1
  duties : (state.progress.firstRun = true ∨ state.window.staged? epoch = none ∨
      relay.revalidation = .always) →
    ∃ assignments, replies.duties = .ok assignments ∧
      (∀ assignment ∈ assignments, ∀ slot ∈ assignment.slots, relay.length.epochOf slot = epoch) ∧
      ∀ cached, state.window.staged? epoch = some cached → cached.conflicts assignments = []
  current : state.progress.firstRun = true → ∃ answer, replies.current = .ok answer
  next : ∃ answer, replies.next = .ok answer

theorem revalidates_iff {known : Option Schedule} :
    relay.revalidates firstRun known = true ↔
      firstRun = true ∨ known = none ∨ relay.revalidation = .always := by
  unfold revalidates
  rw [Bool.or_eq_true, Bool.or_eq_true, Option.isNone_iff_eq_none, decide_eq_true_iff, or_assoc]

theorem commitsAt_iff :
    relay.CommitsAt state replies epoch ↔
      ∃ head, replies.head = .ok head ∧
        state.progress.transition relay.length head = .due epoch state.progress.firstRun ∧
        Step.firstFault
          (relay.refreshSteps state.window epoch state.progress.firstRun replies) = none := by
  simp only [clean_iff, Progress.transition_eq_due_iff]
  constructor
  · rintro ⟨⟨head, hhead, hepoch⟩, hdue, ⟨assignments, hupcoming, hslots⟩, hduties, hcurrent, hnext⟩
    refine ⟨head, hhead, ⟨hepoch.symm, trivial, hdue⟩,
      ⟨assignments, hupcoming, Schedule.strayFault?_eq_none_iff.mpr hslots⟩, ?_, hcurrent, hnext⟩
    intro hfetch
    obtain ⟨assignments, hreply, hslots, hfresh⟩ := hduties (revalidates_iff.mp hfetch)
    exact ⟨assignments, hreply, Schedule.strayFault?_eq_none_iff.mpr hslots, hfresh⟩
  · rintro ⟨head, hhead, ⟨hepoch, _, hdue⟩, ⟨assignments, hupcoming, hstray⟩, hduties, hcurrent, hnext⟩
    refine ⟨⟨head, hhead, hepoch.symm⟩, hdue,
      ⟨assignments, hupcoming, Schedule.strayFault?_eq_none_iff.mp hstray⟩, ?_, hcurrent, hnext⟩
    intro hfetch
    obtain ⟨assignments, hreply, hstray, hfresh⟩ := hduties (revalidates_iff.mpr hfetch)
    exact ⟨assignments, hreply, Schedule.strayFault?_eq_none_iff.mp hstray, hfresh⟩

/-! ## The steps of a tick -/

/-- The steps that are left once the head is known. -/
def stepsAt (relay : Relay) (state : State) (replies : Replies) (head : Slot) : List Step :=
  match state.progress.transition relay.length head with
  | .settled _ => []
  | .due epoch firstRun => relay.refreshSteps state.window epoch firstRun replies

/-- The steps of a tick in order. First the head is asked for. If a refresh is due, the next epoch is asked
for; it has to be the one after the current epoch, and the slots have to lie in it. Where the current epoch
is fetched, its slots have to lie in it and must not conflict with the schedule at hand. Then the current
epoch is published, at the first refresh only, and the next one. -/
def tickSteps (relay : Relay) (state : State) (replies : Replies) : List Step :=
  .ask .head replies.head ::
    match replies.head with
    | .ok head => relay.stepsAt state replies head
    | .error _ => []

theorem tickSteps_of_settled {head : Slot} (hhead : replies.head = .ok head)
    (h : state.progress.transition relay.length head = .settled epoch) :
    relay.tickSteps state replies = [.ask .head (.ok head)] := by
  unfold tickSteps
  rw [hhead]
  show _ :: relay.stepsAt state replies head = _
  unfold stepsAt
  rw [h]

theorem tickSteps_of_due {head : Slot} (hhead : replies.head = .ok head)
    (h : state.progress.transition relay.length head = .due epoch firstRun) :
    relay.tickSteps state replies =
      .ask .head (.ok head) :: relay.refreshSteps state.window epoch firstRun replies := by
  unfold tickSteps
  rw [hhead]
  show _ :: relay.stepsAt state replies head = _
  unfold stepsAt
  rw [h]

theorem tickSteps_of_unseen (hhead : replies.head = .error failure) :
    relay.tickSteps state replies = [.ask .head (.error failure)] := by
  unfold tickSteps
  rw [hhead]

/-- A tick fails with the first fault of its steps, and says what they say. -/
theorem Course.steps (h : relay.Course state replies talk result after) :
    fault? result = Step.firstFault (relay.tickSteps state replies) ∧
      talk = Step.talk (relay.tickSteps state replies) := by
  cases h with
  | unseen hhead => rw [tickSteps_of_unseen hhead]; exact ⟨rfl, rfl⟩
  | idle hhead hsettled => rw [tickSteps_of_settled hhead hsettled]; exact ⟨rfl, rfl⟩
  | aborted hhead hdue hfault =>
    rw [tickSteps_of_due hhead hdue, Step.firstFault_ask, hfault]
    exact ⟨rfl, rfl⟩
  | committed hhead hdue hfault =>
    rw [tickSteps_of_due hhead hdue, Step.firstFault_ask, hfault, ← Step.talk_eq_fullTalk hfault]
    exact ⟨rfl, rfl⟩

theorem Course.committed_iff (h : relay.Course state replies talk result after) :
    (∃ acknowledgement, result = .ok (.committed epoch acknowledgement)) ↔
      relay.CommitsAt state replies epoch := by
  rw [commitsAt_iff]
  cases h with
  | unseen hhead =>
    rw [hhead]
    exact ⟨nofun, nofun⟩
  | idle hhead hsettled =>
    constructor
    · exact nofun
    · rintro ⟨head, hhead', hdue, _⟩
      obtain rfl := Except.ok.inj (hhead.symm.trans hhead')
      cases hsettled.symm.trans hdue
  | aborted hhead hdue hfault =>
    constructor
    · exact nofun
    · rintro ⟨head, hhead', hdue', hnone⟩
      obtain rfl := Except.ok.inj (hhead.symm.trans hhead')
      cases hdue.symm.trans hdue'
      cases hfault.symm.trans hnone
  | committed hhead hdue hfault =>
    constructor
    · rintro ⟨_, heq⟩
      cases heq
      obtain ⟨_, rfl, _⟩ := Progress.transition_eq_due_iff.mp hdue
      exact ⟨_, hhead, hdue, hfault⟩
    · rintro ⟨head, hhead', hdue', _⟩
      obtain rfl := Except.ok.inj (hhead.symm.trans hhead')
      cases hdue.symm.trans hdue'
      exact ⟨_, rfl⟩

theorem Course.idle_iff (h : relay.Course state replies talk result after) :
    result = .ok (.idle epoch) ↔
      ∃ head, replies.head = .ok head ∧ epoch = relay.length.epochOf head ∧
        ¬ state.progress.IsDue epoch := by
  simp only [← Progress.transition_eq_settled_iff]
  cases h with
  | unseen hhead =>
    rw [hhead]
    exact ⟨nofun, nofun⟩
  | idle hhead hsettled =>
    constructor
    · rintro ⟨⟩; exact ⟨_, hhead, hsettled⟩
    · rintro ⟨head, hhead', hsettled'⟩
      obtain rfl := Except.ok.inj (hhead.symm.trans hhead')
      cases hsettled.symm.trans hsettled'
      rfl
  | aborted hhead hdue hfault =>
    constructor
    · exact nofun
    · rintro ⟨head, hhead', hsettled⟩
      obtain rfl := Except.ok.inj (hhead.symm.trans hhead')
      cases hdue.symm.trans hsettled
  | committed hhead hdue hfault =>
    constructor
    · exact nofun
    · rintro ⟨head, hhead', hsettled⟩
      obtain rfl := Except.ok.inj (hhead.symm.trans hhead')
      cases hdue.symm.trans hsettled

/-! ## Where failures come from -/

/-- A failure that the relay comes to by itself in a tick: the head has moved on between two questions,
a slot lies in another epoch, or fresh duties conflict with the known schedule. -/
inductive OwnFailure : Failure → Prop
  | headMoved {expected actual} : OwnFailure (.headMoved expected actual)
  | slotOutsideEpoch {slot epoch} : OwnFailure (.slotOutsideEpoch slot epoch)
  | conflict {epoch count} : OwnFailure (.conflict epoch count)

/-- The fault of the step, if it has one, is that of the reply in it, or one of the relay's own. -/
def Accounted (step : Step) : Prop :=
  ∀ failure, step.fault = some failure →
    (∃ exchange, step.exchange = some exchange ∧ exchange.reply = .error failure) ∨
      OwnFailure failure

theorem accounted_ask {query : Nodes.Query} {reply : Outcome (Nodes.Value query)} :
    Accounted (.ask query reply) := by
  intro failure hfault
  refine Or.inl ⟨_, rfl, ?_⟩
  cases reply with
  | ok value => cases hfault
  | error failure' => cases hfault; rfl

theorem accounted_look {α : Type} {reply : Outcome α} {wrong : α → Option Failure}
    (h : ∀ value failure, wrong value = some failure → OwnFailure failure) :
    Accounted (.look reply wrong) := by
  intro failure hfault
  cases reply with
  | ok value => exact Or.inr (h value failure hfault)
  | error _ => cases hfault

theorem ownFailure_of_stray {length : EpochLength} {assignments : List Assignment}
    (h : Schedule.strayFault? length epoch assignments = some failure) : OwnFailure failure := by
  obtain ⟨claim, _, rfl⟩ := Option.map_eq_some_iff.mp h
  exact .slotOutsideEpoch

theorem accounted_nextSteps {reply : Outcome (Epoch × List Assignment)} :
    ∀ step ∈ relay.nextSteps epoch reply, Accounted step := by
  intro step hstep
  simp only [nextSteps, List.mem_cons, List.not_mem_nil, or_false] at hstep
  rcases hstep with rfl | rfl | rfl
  · exact accounted_ask
  · refine accounted_look fun answer failure h => ?_
    by_cases hnext : answer.1 = epoch + 1
    · cases (if_pos hnext).symm.trans h
    · cases (if_neg hnext).symm.trans h; exact .headMoved
  · exact accounted_look fun _ _ => ownFailure_of_stray

theorem accounted_currentSteps {known : Option Schedule} {reply : Outcome (List Assignment)} :
    ∀ step ∈ relay.currentSteps epoch known reply, Accounted step := by
  intro step hstep
  simp only [currentSteps, List.mem_cons, List.not_mem_nil, or_false] at hstep
  rcases hstep with rfl | rfl | rfl
  · exact accounted_ask
  · exact accounted_look fun _ _ => ownFailure_of_stray
  · refine accounted_look fun assignments failure h => ?_
    obtain ⟨cached, _, h⟩ := Option.bind_eq_some_iff.mp h
    unfold Schedule.checkFresh at h
    cases hconflicts : cached.conflicts assignments with
    | nil => rw [hconflicts] at h; cases h
    | cons conflict rest => rw [hconflicts] at h; cases h; exact .conflict

theorem accounted_windowSteps {published : Outcome Bool × Outcome Bool} :
    ∀ step ∈ relay.windowSteps firstRun window published, Accounted step := by
  have hpublish : ∀ schedule reply, ∀ step ∈ relay.publishSteps schedule reply, Accounted step := by
    intro schedule reply step hstep
    obtain ⟨_, _, rfl⟩ := List.mem_map.mp hstep
    exact accounted_ask
  intro step hstep
  rcases List.mem_append.mp hstep with hcurrent | hnext
  · cases firstRun with
    | true => exact hpublish _ _ _ hcurrent
    | false => cases hcurrent
  · exact hpublish _ _ _ hnext

theorem accounted_tickSteps : ∀ step ∈ relay.tickSteps state replies, Accounted step := by
  intro step hstep
  rcases List.mem_cons.mp hstep with rfl | hrest
  · exact accounted_ask
  · cases hhead : replies.head with
    | error failure => rw [hhead] at hrest; cases hrest
    | ok head =>
      rw [hhead] at hrest
      change step ∈ relay.stepsAt state replies head at hrest
      unfold stepsAt at hrest
      cases hprogress : state.progress.transition relay.length head with
      | settled epoch => rw [hprogress] at hrest; cases hrest
      | due epoch firstRun =>
        rw [hprogress] at hrest
        rcases List.mem_append.mp hrest with hnext | hrest
        · exact accounted_nextSteps step hnext
        · rcases List.mem_append.mp hrest with hfresh | hpublish
          · unfold freshSteps at hfresh
            by_cases hfetch : relay.revalidates firstRun (state.window.staged? epoch) = true
            · rw [if_pos hfetch] at hfresh
              exact accounted_currentSteps step hfresh
            · rw [if_neg hfetch] at hfresh
              cases hfresh
          · exact accounted_windowSteps step hpublish

/-- **The window always moves on.** Once the schedules have been fetched, neither the move nor the look
at the schedule to be published fails. -/
theorem promote_of_fetched {earlier later : List (Exchange Nodes)} {next : Schedule}
    {fresh : Option Schedule}
    (hnext : (relay.fetchNext epoch).run.Leads earlier (.ok next))
    (hfresh : (if relay.revalidates firstRun (window.staged? epoch) then
        some <$> relay.fetchCurrent epoch (window.staged? epoch) else pure none).run.Leads
      later (.ok fresh)) :
    ∃ moved, window.promote next fresh = .ok moved ∧ moved.announced next.epoch = .ok next := by
  obtain ⟨upcoming, _, hupcoming⟩ := follows_fetchNext.leads_iff.mp hnext
  obtain ⟨duties, _, hduties⟩ := follows_fresh.leads_iff.mp hfresh
  obtain ⟨current, hcurrent, _, hepoch⟩ := current_of_freshFrom hduties.symm
  obtain ⟨_, hnextEpoch⟩ := nextFrom_eq_ok hupcoming.symm
  exact ⟨_, Window.promote_eq_ok hnextEpoch hcurrent hepoch, rfl⟩

/-! ## The rule -/

/-- How the result of a tick and what is said in it depend on the replies. -/
structure Precedence (relay : Relay) (state : State) (replies : Replies)
    (talk : List (Exchange Nodes)) (result : Outcome TickResult) : Prop where
  committed_iff : ∀ epoch, (∃ acknowledgement, result = .ok (.committed epoch acknowledgement)) ↔
    relay.CommitsAt state replies epoch
  idle_iff : ∀ epoch, result = .ok (.idle epoch) ↔
    ∃ head, replies.head = .ok head ∧ epoch = relay.length.epochOf head ∧ ¬ state.progress.IsDue epoch
  error_iff : ∀ failure, result = .error failure ↔
    ∃ earlier step, Step.IsFirst (relay.tickSteps state replies) earlier step failure
  /-- Nothing is said after the first fault. -/
  talk_of_fault : ∀ earlier step failure,
    Step.IsFirst (relay.tickSteps state replies) earlier step failure →
      talk = Step.fullTalk (earlier ++ [step])
  talk_of_ok : ∀ value, result = .ok value → talk = Step.fullTalk (relay.tickSteps state replies)
  /-- A failure is one that a node replied, unless it is one of the relay's own. -/
  replied : ∀ failure, result = .error failure →
    (∃ exchange ∈ talk, exchange.reply = .error failure) ∨ OwnFailure failure

theorem Course.precedence (h : relay.Course state replies talk result after) :
    relay.Precedence state replies talk result := by
  obtain ⟨hfault, htalk⟩ := h.steps
  have herror : ∀ failure, result = .error failure ↔
      ∃ earlier step, Step.IsFirst (relay.tickSteps state replies) earlier step failure := by
    intro failure
    rw [← Step.firstFault_eq_some_iff, ← hfault]
    cases result with
    | ok value => exact ⟨nofun, nofun⟩
    | error failure' =>
      constructor
      · rintro ⟨⟩; rfl
      · rintro ⟨⟩; rfl
  have hsaid : ∀ earlier step failure,
      Step.IsFirst (relay.tickSteps state replies) earlier step failure →
        talk = Step.fullTalk (earlier ++ [step]) :=
    fun earlier step failure hfirst => htalk.trans hfirst.talk_eq
  refine ⟨fun _ => h.committed_iff, fun _ => h.idle_iff, herror, hsaid, ?_, ?_⟩
  · rintro value rfl
    rw [htalk, Step.talk_eq_fullTalk hfault.symm]
  · intro failure hresult
    obtain ⟨earlier, step, hfirst⟩ := (herror failure).mp hresult
    obtain ⟨later, heq⟩ := hfirst.splits
    have hmem : step ∈ relay.tickSteps state replies := by
      rw [heq]
      exact List.mem_append_right _ List.mem_cons_self
    rcases accounted_tickSteps step hmem failure hfirst.fault with ⟨exchange, hexchange, hreply⟩ | hown
    · refine Or.inl ⟨exchange, ?_, hreply⟩
      rw [hsaid earlier step failure hfirst]
      exact List.mem_filterMap.mpr
        ⟨step, List.mem_append_right _ (List.mem_singleton.mpr rfl), hexchange⟩
    · exact Or.inr hown

/-- **A refresh is completed exactly if nothing goes wrong, and else the first fault counts.** Every tick
follows the rule for some replies, and for any replies there is a tick that follows it; once the schedules
are fetched, the window moves on without fail. Every epoch has one after it here, the largest word included
(`Relay.fetchNext`). -/
theorem tick_precedence (relay : Relay) (state : State) :
    (∀ talk result after, (relay.tick state).Leads talk (result, after) →
      ∃ replies, relay.Precedence state replies talk result) ∧
    (∀ replies, ∃ talk result after, (relay.tick state).Leads talk (result, after) ∧
      relay.Precedence state replies talk result) ∧
    (∀ epoch firstRun earlier later next fresh,
      (relay.fetchNext epoch).run.Leads earlier (.ok next) →
      (if relay.revalidates firstRun (state.window.staged? epoch) then
          some <$> relay.fetchCurrent epoch (state.window.staged? epoch)
        else pure none).run.Leads later (.ok fresh) →
      ∃ moved, state.window.promote next fresh = .ok moved ∧ moved.announced next.epoch = .ok next) := by
  refine ⟨?_, ?_, fun _ _ _ _ _ _ => promote_of_fetched⟩
  · intro talk result after h
    obtain ⟨replies, hcourse⟩ := tick_leads_iff.mp h
    exact ⟨replies, hcourse.precedence⟩
  · intro replies
    obtain ⟨talk, result, after, hcourse⟩ := exists_course replies
    exact ⟨talk, result, after, tick_leads_iff.mpr ⟨replies, hcourse⟩, hcourse.precedence⟩

/-- The relay after its first refresh, for the third epoch: validator 2 has been announced for the fourth. -/
def prepared : State := standard.stateAfter State.start [repliesAt 64 1 2]

/-- A chain whose head moves from the first epoch to the fifth between two questions, with duties that are
stray as well: it is the move that counts, and the duties of the current epoch are not asked for. Where nothing
goes wrong, a first refresh hands over two payloads. The refresh for the fourth epoch compares the duties with what
has been announced: if they are the same, the fifth epoch is handed over, and if validator 9 has taken the place of
validator 2, nothing is. -/
theorem tick_precedence_headMoved :
    (∃ talk after, (Relay.standard.tick State.start).Leads talk (.error (.headMoved 1 5), after) ∧
      talk = [⟨.head, .ok 0⟩, ⟨.upcoming, .ok (5, [⟨7, default, [0]⟩])⟩]) ∧
    (∃ talk acknowledgement after,
      (standard.tick State.start).Leads talk (.ok (.committed 2 acknowledgement), after) ∧
      talk = [⟨.head, .ok 64⟩, ⟨.upcoming, .ok (3, loneProposer 3 2)⟩, ⟨.duties 2, .ok (loneProposer 2 1)⟩,
        ⟨.insert ⟨2, ["0x01"], 384⟩, .ok true⟩, ⟨.insert ⟨3, ["0x02"], 576⟩, .ok true⟩]) ∧
    ∃ cached, prepared.window.staged? 3 = some cached ∧
      (cached.checkFresh (loneProposer 3 2) = .ok () ∧
        ∃ talk acknowledgement after,
          (standard.tick prepared).Leads talk (.ok (.committed 3 acknowledgement), after) ∧
          talk = [⟨.head, .ok 96⟩, ⟨.upcoming, .ok (4, loneProposer 4 3)⟩, ⟨.duties 3, .ok (loneProposer 3 2)⟩,
            ⟨.insert ⟨4, ["0x03"], 768⟩, .ok true⟩]) ∧
      (cached.checkFresh (loneProposer 3 9) = .error (.conflict 3 1) ∧
        ∃ talk after, (standard.tick prepared).Leads talk (.error (.conflict 3 1), after) ∧
          talk = [⟨.head, .ok 96⟩, ⟨.upcoming, .ok (4, loneProposer 4 3)⟩, ⟨.duties 3, .ok (loneProposer 3 9)⟩]) := by
  refine ⟨?_, ?_, _, rfl, ⟨rfl, ?_⟩, rfl, ?_⟩
  · obtain ⟨talk, result, after, hleads, hrule⟩ := (tick_precedence Relay.standard State.start).2.1
      ⟨.ok 0, .ok (5, [⟨7, default, [0]⟩]), .ok [], .ok true, .ok true⟩
    have hfirst : Step.IsFirst (Relay.standard.tickSteps State.start
        ⟨.ok 0, .ok (5, [⟨7, default, [0]⟩]), .ok [], .ok true, .ok true⟩)
        [.ask .head (.ok 0), .ask .upcoming (.ok (5, [⟨7, default, [0]⟩]))]
        ⟨none, some (.headMoved 1 5)⟩ (.headMoved 1 5) :=
      ⟨⟨_, rfl⟩, by simp [Step.ask], rfl⟩
    obtain rfl := (hrule.error_iff _).mpr ⟨_, _, hfirst⟩
    exact ⟨talk, after, hleads, hrule.talk_of_fault _ _ _ hfirst⟩
  · obtain ⟨talk, result, after, hleads, hrule⟩ := (tick_precedence standard State.start).2.1 (repliesAt 64 1 2)
    have hcommits : standard.CommitsAt State.start (repliesAt 64 1 2) 2 := commitsAt_iff.mpr ⟨64, rfl, rfl, rfl⟩
    obtain ⟨acknowledgement, rfl⟩ := (hrule.committed_iff 2).mpr hcommits
    exact ⟨talk, acknowledgement, after, hleads, hrule.talk_of_ok _ rfl⟩
  · obtain ⟨talk, result, after, hleads, hrule⟩ := (tick_precedence standard prepared).2.1 (repliesAt 96 2 3)
    have hcommits : standard.CommitsAt prepared (repliesAt 96 2 3) 3 := commitsAt_iff.mpr ⟨96, rfl, rfl, rfl⟩
    obtain ⟨acknowledgement, rfl⟩ := (hrule.committed_iff 3).mpr hcommits
    exact ⟨talk, acknowledgement, after, hleads, hrule.talk_of_ok _ rfl⟩
  · obtain ⟨talk, result, after, hleads, hrule⟩ := (tick_precedence standard prepared).2.1 (repliesAt 96 9 3)
    obtain ⟨earlier, step, hfirst⟩ := Step.firstFault_eq_some_iff.mp
      (rfl : Step.firstFault (standard.tickSteps prepared (repliesAt 96 9 3)) = some (.conflict 3 1))
    obtain rfl := (hrule.error_iff _).mpr ⟨_, _, hfirst⟩
    exact ⟨talk, after, hleads, (hrule.talk_of_fault _ _ _ hfirst).trans hfirst.talk_eq.symm⟩

end Relay
end DutyRelay
