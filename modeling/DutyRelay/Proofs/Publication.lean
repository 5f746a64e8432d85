import DutyRelay.Proofs.Coherence

/-!
# What the execution node is told

The payloads that are handed to the execution node in one tick, with the replies to them. Nothing is
handed over before everything is fetched and looked at; then comes the current epoch, at the first refresh
only, and the next one. Over a run, the payloads of completed refreshes are for ever later epochs.

## Contents
- `Call`, `calls`: the payloads in what was said.
- `calls_of_fault`, `calls_of_fetched`, `windowCalls_of_clean`, `calls_of_aborted`: the calls of a refresh.
- `answered_of_uncommitted`: what is answered in any other tick.
- `Turn.payloads`, `ledger`: the payloads of completed refreshes over a run.
- `Ordered`, `Run.ordered`: they are for ever later epochs.
-/

namespace DutyRelay

/-! ## Payloads in what was said -/

/-- A payload handed to the execution node, with the reply to it. -/
structure Call where
  payload : Payload
  reply : Outcome Bool

/-- The call that an exchange is, if it is one. -/
def Exchange.call? : Exchange Nodes → Option Call
  | ⟨.head, _⟩ => none
  | ⟨.upcoming, _⟩ => none
  | ⟨.duties _, _⟩ => none
  | ⟨.insert payload, reply⟩ => some ⟨payload, reply⟩

/-- The payloads handed over, in order. -/
def calls (talk : List (Exchange Nodes)) : List Call := talk.filterMap Exchange.call?

theorem calls_append {earlier later : List (Exchange Nodes)} :
    calls (earlier ++ later) = calls earlier ++ calls later := List.filterMap_append

namespace Relay

variable {relay : Relay} {window : Window} {epoch : Epoch} {firstRun : Bool} {replies : Replies}
  {current next : Schedule} {failure : Failure}

/-! ## The calls of a refresh -/

/-- The steps of a refresh up to the publishing part. -/
def fetchSteps (relay : Relay) (window : Window) (epoch : Epoch) (firstRun : Bool)
    (replies : Replies) : List Step :=
  relay.nextSteps epoch replies.upcoming ++ relay.freshSteps window epoch firstRun replies.duties

theorem refreshSteps_eq :
    relay.refreshSteps window epoch firstRun replies =
      relay.fetchSteps window epoch firstRun replies ++
        relay.windowSteps firstRun (relay.windowAfter window epoch replies)
          (replies.current, replies.next) := by
  unfold refreshSteps fetchSteps
  rw [List.append_assoc]

theorem calls_fetchSteps :
    calls (Step.talk (relay.fetchSteps window epoch firstRun replies)) = [] := by
  -- What is said is a part of what would be said, and in that there is no payload.
  obtain ⟨later, hlater⟩ := Step.talk_prefix (relay.fetchSteps window epoch firstRun replies)
  have hnone : calls (Step.fullTalk (relay.fetchSteps window epoch firstRun replies)) = [] := by
    unfold fetchSteps freshSteps
    by_cases hfetch : relay.revalidates firstRun (window.staged? epoch) = true
    · rw [if_pos hfetch]; rfl
    · rw [if_neg hfetch]; rfl
  rw [← hlater, calls_append] at hnone
  exact (List.append_eq_nil_iff.mp hnone).1

/-- Nothing is handed over if anything goes wrong before. -/
theorem calls_of_fault
    (h : Step.firstFault (relay.fetchSteps window epoch firstRun replies) = some failure) :
    calls (Step.talk (relay.refreshSteps window epoch firstRun replies)) = [] := by
  rw [refreshSteps_eq, Step.talk_append_of_fault h, calls_fetchSteps]

/-- The calls of the publishing part: at the first refresh the current epoch, and the next one unless
that fails; later the next one only. -/
def windowCalls (relay : Relay) (firstRun : Bool) (current next : Schedule) (replies : Replies) :
    List Call :=
  let last : Call := ⟨relay.calendar.payload next, replies.next⟩
  if firstRun then
    ⟨relay.calendar.payload current, replies.current⟩ ::
      match replies.current with
      | .ok _ => [last]
      | .error _ => []
  else [last]

theorem fetched_iff :
    Step.firstFault (relay.fetchSteps window epoch firstRun replies) = none ↔
      Step.firstFault (relay.nextSteps epoch replies.upcoming) = none ∧
        Step.firstFault (relay.freshSteps window epoch firstRun replies.duties) = none := by
  unfold fetchSteps
  rw [Step.firstFault_append, Option.or_eq_none_iff]

/-- **Once everything is fetched and looked at**, there are two schedules, and their payloads are handed
over. -/
theorem calls_of_fetched
    (h : Step.firstFault (relay.fetchSteps window epoch firstRun replies) = none)
    (hwindow : relay.windowAfter window epoch replies = ⟨some current, some next⟩) :
    calls (Step.talk (relay.refreshSteps window epoch firstRun replies)) =
      relay.windowCalls firstRun current next replies := by
  rw [refreshSteps_eq, Step.talk_append_of_none h, calls_append, calls_fetchSteps, hwindow,
    List.nil_append]
  unfold windowCalls
  cases firstRun with
  | false => cases replies.next <;> rfl
  | true => cases replies.current <;> cases replies.next <;> rfl

/-- A refresh without a fault hands over every payload. -/
theorem windowCalls_of_clean (h : relay.Clean window epoch firstRun replies) :
    relay.windowCalls firstRun current next replies =
      (if firstRun then [⟨relay.calendar.payload current, replies.current⟩] else []) ++
        [⟨relay.calendar.payload next, replies.next⟩] := by
  unfold windowCalls
  cases firstRun with
  | false => rfl
  | true =>
    obtain ⟨answer, hanswer⟩ := h.current rfl
    rw [hanswer]
    rfl

/-- In an aborted refresh a payload is answered only if it is that of the current epoch, at the first
refresh, and the one of the next epoch failed. -/
theorem calls_of_aborted {call : Call} {answer : Bool}
    (hfault : Step.firstFault (relay.refreshSteps window epoch firstRun replies) = some failure)
    (hcall : call ∈ calls (Step.talk (relay.refreshSteps window epoch firstRun replies)))
    (hanswer : call.reply = .ok answer) :
    firstRun = true ∧ ∃ q, q.epoch = call.payload.epoch + 1 ∧
      calls (Step.talk (relay.refreshSteps window epoch firstRun replies)) =
        [call, ⟨q, .error failure⟩] := by
  cases hfetch : Step.firstFault (relay.fetchSteps window epoch firstRun replies) with
  | some _ => rw [calls_of_fault hfetch] at hcall; cases hcall
  | none =>
    obtain ⟨hnext, hfresh⟩ := fetched_iff.mp hfetch
    obtain ⟨current, next, hwindow, hcurrent, hepoch⟩ := windowAfter_epochs hnext hfresh
    have hepochs : (relay.calendar.payload next).epoch = (relay.calendar.payload current).epoch + 1 := by
      show next.epoch = current.epoch + 1
      rw [hepoch, hcurrent]
    rw [refreshSteps_eq, Step.firstFault_append, hfetch, Option.none_or, hwindow,
      firstFault_windowSteps] at hfault
    rw [calls_of_fetched hfetch hwindow] at hcall ⊢
    unfold windowCalls at hcall ⊢
    cases firstRun with
    | false =>
      -- Nothing but the next epoch is published, and that is what failed.
      have hfailed : replies.next = .error failure := fault?_eq_some_iff.mp hfault
      obtain rfl := List.mem_singleton.mp hcall
      cases hfailed.symm.trans hanswer
    | true =>
      cases hreply : replies.current with
      | error _ =>
        rw [hreply] at hcall
        obtain rfl := List.mem_singleton.mp hcall
        cases hanswer
      | ok _ =>
        rw [hreply] at hfault hcall
        have hfailed : replies.next = .error failure := fault?_eq_some_iff.mp hfault
        rw [hfailed] at hcall ⊢
        rcases List.mem_cons.mp hcall with rfl | hlast
        · exact ⟨rfl, _, hepochs, rfl⟩
        · obtain rfl := List.mem_singleton.mp hlast
          cases hanswer

/-! ## Completed refreshes of a run -/

/-- The payloads handed over in a turn. -/
def Turn.payloads (turn : Turn) : List Payload := (calls turn.talk).map Call.payload

/-- The payloads handed over in the turns of a run that completed a refresh. -/
def ledger (turns : List Turn) : List Payload :=
  (turns.filter Turn.commits).flatMap Turn.payloads

theorem mem_ledger {turns : List Turn} {turn : Turn} {p : Payload} (hturn : turn ∈ turns)
    (hcommits : turn.commits = true) (hp : p ∈ turn.payloads) : p ∈ ledger turns :=
  List.mem_flatMap.mpr ⟨turn, List.mem_filter.mpr ⟨hturn, hcommits⟩, hp⟩

theorem ledger_append {turns later : List Turn} :
    ledger (turns ++ later) = ledger turns ++ ledger later := by
  unfold ledger
  rw [List.filter_append, List.flatMap_append]

/-- The payloads of a completed refresh: the current epoch at the first refresh, and the next one. -/
theorem payloads_of_committed {state : State} {head : Slot}
    (hfault : Step.firstFault (relay.refreshSteps state.window epoch firstRun replies) = none) :
    ∃ current next, relay.windowAfter state.window epoch replies = ⟨some current, some next⟩ ∧
      current.epoch = epoch ∧ next.epoch = epoch + 1 ∧
      (calls (⟨.head, .ok head⟩ ::
          Step.fullTalk (relay.refreshSteps state.window epoch firstRun replies))).map Call.payload =
        (if firstRun then [relay.calendar.payload current] else []) ++ [relay.calendar.payload next] := by
  have hclean := clean_iff.mp hfault
  have hnext := firstFault_nextSteps_eq_none_iff.mpr hclean.upcoming
  have hfresh := firstFault_freshSteps_eq_none_iff.mpr hclean.duties
  obtain ⟨current, next, hwindow, hcurrent, hepoch⟩ := windowAfter_epochs hnext hfresh
  refine ⟨current, next, hwindow, hcurrent, hepoch, ?_⟩
  show (calls (Step.fullTalk _)).map Call.payload = _
  rw [← Step.talk_eq_fullTalk hfault, calls_of_fetched (fetched_iff.mpr ⟨hnext, hfresh⟩) hwindow,
    windowCalls_of_clean hclean, List.map_append]
  cases firstRun <;> rfl

/-- **What is answered without a completed refresh**: at the first refresh, the payload of the current epoch,
right before the one of the next epoch fails. -/
theorem answered_of_uncommitted {state after : State} {talk : List (Exchange Nodes)}
    {result : Outcome TickResult} {call : Call} {answer : Bool}
    (htick : (relay.tick state).Leads talk (result, after)) (hcommits : commits result = false)
    (hcall : call ∈ calls talk) (hanswer : call.reply = .ok answer) :
    state.progress.firstRun = true ∧ ∃ q failure, q.epoch = call.payload.epoch + 1 ∧
      calls talk = [call, ⟨q, .error failure⟩] ∧ result = .error failure := by
  obtain ⟨replies, hcourse⟩ := tick_leads_iff.mp htick
  cases hcourse with
  | unseen hhead => exact absurd hcall List.not_mem_nil
  | idle hhead hsettled => exact absurd hcall List.not_mem_nil
  | aborted hhead hdue hfault =>
    obtain ⟨_, hfirst, _⟩ := Progress.transition_eq_due_iff.mp hdue
    obtain ⟨hfirstRun, q, hepochs, hcalls⟩ := calls_of_aborted hfault hcall hanswer
    exact ⟨hfirst.symm.trans hfirstRun, q, _, hepochs, hcalls, rfl⟩
  | committed hhead hdue hfault => cases hcommits

/-- Payloads for ever later epochs, none of them beyond the epoch after the one dealt with last. -/
structure Ordered (state : State) (payloads : List Payload) : Prop where
  increasing : payloads.Pairwise fun p q => p.epoch < q.epoch
  bounded : ∀ p ∈ payloads, ∃ last, state.progress.lastProcessed = some last ∧ p.epoch ≤ last + 1

/-- In a list of payloads for ever later epochs, one epoch has one payload. -/
theorem Ordered.eq_of_epoch {state : State} {payloads : List Payload} {p q : Payload}
    (h : Ordered state payloads) (hp : p ∈ payloads) (hq : q ∈ payloads) (hepoch : p.epoch = q.epoch) :
    p = q := by
  have hlater : payloads.Pairwise fun p q => p.epoch = q.epoch → p = q :=
    h.increasing.imp fun hlt heq => absurd heq (Nat.ne_of_lt hlt)
  have hearlier : payloads.Pairwise (flip fun p q => p.epoch = q.epoch → p = q) :=
    h.increasing.imp fun hlt heq => absurd heq.symm (Nat.ne_of_lt hlt)
  exact hlater.forall_of_forall_of_flip (fun _ _ _ => rfl) hearlier hp hq hepoch

/-- Payloads so far are for epochs before the next one of a refresh that is due, and at the first refresh
there are none. -/
theorem Ordered.before {state : State} {head : Slot} {payloads : List Payload}
    (h : Ordered state payloads) (hstate : state.Coherent relay.length)
    (hdue : state.progress.transition relay.length head = .due epoch firstRun) :
    ∀ p ∈ payloads, p.epoch < epoch + 1 ∧ firstRun = false := by
  intro p hp
  obtain ⟨_, hfirst, hbeyond⟩ := Progress.transition_eq_due_iff.mp hdue
  obtain ⟨last, hlast, hle⟩ := h.bounded p hp
  rcases hstate with hfresh | ⟨_, hsynced⟩
  · rw [hfresh.lastProcessed] at hlast
    cases hlast
  · have hlt := hbeyond.lt hsynced.firstRun hlast
    exact ⟨Nat.lt_succ_of_le (Nat.le_trans hle hlt), hfirst.trans hsynced.firstRun⟩

/-- A completed refresh adds payloads for later epochs. -/
theorem Ordered.commit {state : State} {head : Slot} {payloads : List Payload} {window' : Window}
    (h : Ordered state payloads) (hstate : state.Coherent relay.length)
    (hdue : state.progress.transition relay.length head = .due epoch firstRun)
    (hcurrent : current.epoch = epoch) (hnext : next.epoch = epoch + 1) :
    Ordered ((state.see head).commit epoch window') (payloads ++
      ((if firstRun then [relay.calendar.payload current] else []) ++
        [relay.calendar.payload next])) := by
  -- At the first refresh there are no payloads yet, and later only the next epoch is added.
  have hbefore := h.before hstate hdue
  have hlast : ((state.see head).commit epoch window').progress.lastProcessed = some epoch :=
    hstate.lastProcessed_commit hdue
  have hpayload : ∀ schedule, (relay.calendar.payload schedule).epoch = schedule.epoch := fun _ => rfl
  constructor
  · rw [List.pairwise_append]
    refine ⟨h.increasing, ?_, ?_⟩
    · cases firstRun with
      | false => exact List.pairwise_singleton _ _
      | true => simp [hpayload, hcurrent, hnext]
    · intro p hp q hq
      obtain ⟨hlt, hfirst⟩ := hbefore p hp
      subst hfirst
      obtain rfl : q = relay.calendar.payload next := by simpa using hq
      rw [hpayload, hnext]
      exact hlt
  · intro p hp
    refine ⟨epoch, hlast, ?_⟩
    rcases List.mem_append.mp hp with hp | hp
    · exact Nat.le_of_lt (hbefore p hp).1
    · rcases List.mem_append.mp hp with hp | hp
      · cases firstRun with
        | false => cases hp
        | true =>
          obtain rfl := List.mem_singleton.mp hp
          exact Nat.le_succ_of_le (Nat.le_of_eq hcurrent)
      · obtain rfl := List.mem_singleton.mp hp
        exact Nat.le_of_eq hnext

theorem Ordered.of_sameButHead {s t : State} {payloads : List Payload} (h : Ordered s payloads)
    (hlast : t.progress.lastProcessed = s.progress.lastProcessed) : Ordered t payloads := by
  refine ⟨h.increasing, fun p hp => ?_⟩
  rw [hlast]
  exact h.bounded p hp

theorem ledger_single {turn : Turn} :
    ledger [turn] = if turn.commits then turn.payloads else [] := by
  unfold ledger
  cases hcommits : turn.commits with
  | true => rw [List.filter_cons_of_pos hcommits]; simp
  | false => rw [List.filter_cons_of_neg (by simp [hcommits])]; rfl

/-- **Completed refreshes hand over payloads for ever later epochs.** -/
theorem Run.ordered {turns : List Turn} {state : State} (hrun : relay.Run State.start turns state) :
    Ordered state (ledger turns) := by
  induction hrun with
  | refl => exact ⟨.nil, fun p hp => by cases hp⟩
  | @tail turns before talk result after hrun htick ih =>
    rw [ledger_append, ledger_single]
    have hstate := hrun.coherent
    obtain ⟨replies, hcourse⟩ := tick_leads_iff.mp htick
    cases hcourse with
    | unseen hhead => exact (List.append_nil (ledger turns)).symm ▸ ih
    | idle hhead hsettled => exact (List.append_nil (ledger turns)).symm ▸ ih.of_sameButHead rfl
    | aborted hhead hdue hfault =>
      exact (List.append_nil (ledger turns)).symm ▸ ih.of_sameButHead rfl
    | committed hhead hdue hfault =>
      obtain ⟨current, next, _, hcurrent, hnext, hpayloads⟩ := payloads_of_committed hfault
      show Ordered _ (ledger turns ++ (calls _).map Call.payload)
      rw [hpayloads]
      exact ih.commit hstate hdue hcurrent hnext

end Relay
end DutyRelay
