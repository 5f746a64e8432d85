import DutyRelay.Relay
import DutyRelay.Proofs.Step
import DutyRelay.Proofs.Window

/-!
# A refresh as a list of steps

A refresh asks at most four questions, each of them once. This file writes down, for given replies, what
is asked and looked at in each of its parts, and shows that the parts, and the refresh made of them, do
exactly this: `refresh_leads_iff`. What later arguments need to know about a refresh is stated here or
follows from the steps; its code is not opened again.

## Contents
- `Silent`, `AsksOnce`: attempts that ask nothing, and attempts that ask one question.
- `Relay.nextSteps`, `Relay.currentSteps`, `Relay.publishSteps`, each with its `follows_` statement.
- `Relay.moved`: the window that a refresh moves on to; `current_of_freshFrom`: it is always at hand.
- `refresh_parts`, `follows_refresh`: the parts in a row.
- `Replies`, `Relay.refreshSteps`, `refresh_leads_iff`: a refresh in terms of the replies of one tick.
-/

namespace DutyRelay

open Dialogue

/-! ## Attempts that ask nothing or one thing -/

section Attempts

variable {α β : Type} {x : Relay.Attempt α} {f : α → Relay.Attempt β} {query : Nodes.Query}

/-- The attempt says nothing to the nodes and comes to the outcome. -/
def Silent (x : Relay.Attempt α) (outcome : Outcome α) : Prop :=
  ∀ talk out, x.run.Leads talk out ↔ talk = [] ∧ out = outcome

/-- The attempt puts one question, and what it comes to is given by the reply. -/
def AsksOnce (x : Relay.Attempt α) (query : Nodes.Query)
    (outcome : Outcome (Nodes.Value query) → Outcome α) : Prop :=
  ∀ talk out, x.run.Leads talk out ↔ ∃ reply, talk = [⟨query, reply⟩] ∧ out = outcome reply

theorem silent_mk (outcome : Outcome α) : Silent (ExceptT.mk (pure outcome)) outcome :=
  fun _ _ => leads_done_iff

theorem silent_throw_bind (failure : Failure) : Silent (throw failure >>= f) (.error failure) :=
  fun _ _ => leads_done_iff

theorem Silent.note {lines : List Line} {f : Unit → Relay.Attempt α} {outcome : Outcome α}
    (h : Silent (f ()) outcome) : Silent (Relay.Attempt.note lines >>= f) outcome :=
  fun talk out => leads_note_attempt_iff.trans (h talk out)

theorem Silent.bind {outcome : Outcome α} {outcomes : α → Outcome β} (hx : Silent x outcome)
    (hf : ∀ a, outcome = .ok a → Silent (f a) (outcomes a)) :
    Silent (x >>= f) (outcome.bind outcomes) := by
  intro talk out
  rw [leads_attempt_bind_iff]
  cases outcome with
  | error failure =>
    constructor
    · rintro (⟨failure', hfail, rfl⟩ | ⟨_, _, a, _, hok, _⟩)
      · obtain ⟨rfl, heq⟩ := (hx _ _).mp hfail
        cases heq
        exact ⟨rfl, rfl⟩
      · cases ((hx _ _).mp hok).2
    · rintro ⟨rfl, rfl⟩
      exact Or.inl ⟨failure, (hx _ _).mpr ⟨rfl, rfl⟩, rfl⟩
  | ok a =>
    constructor
    · rintro (⟨failure', hfail, rfl⟩ | ⟨earlier, later, a', rfl, hok, hlater⟩)
      · cases ((hx _ _).mp hfail).2
      · obtain ⟨rfl, heq⟩ := (hx _ _).mp hok
        cases heq
        exact (hf a rfl _ _).mp hlater
    · rintro ⟨rfl, rfl⟩
      exact Or.inr ⟨[], [], a, rfl, (hx _ _).mpr ⟨rfl, rfl⟩, (hf a rfl _ _).mpr ⟨rfl, rfl⟩⟩

theorem asksOnce_direct (query : Nodes.Query) :
    AsksOnce (ExceptT.mk (Nodes.direct query)) query id := by
  intro talk out
  rw [ExceptT.run_mk, Nodes.direct, leads_ask_iff]
  constructor
  · rintro rfl; exact ⟨out, rfl, rfl⟩
  · rintro ⟨reply, rfl, rfl⟩; rfl

/-- **One question and then an attempt.** The attempt goes on only if the reply comes to a value. -/
theorem AsksOnce.bind_iff {outcome : Outcome (Nodes.Value query) → Outcome α}
    (hx : AsksOnce x query outcome) {talk : List (Exchange Nodes)} {out : Outcome β} :
    (x >>= f).run.Leads talk out ↔
      ∃ reply rest, talk = ⟨query, reply⟩ :: rest ∧
        ((∃ failure, outcome reply = .error failure ∧ rest = [] ∧ out = .error failure) ∨
          ∃ a, outcome reply = .ok a ∧ (f a).run.Leads rest out) := by
  rw [leads_attempt_bind_iff]
  constructor
  · rintro (⟨failure, hfail, rfl⟩ | ⟨earlier, later, a, rfl, hok, hlater⟩)
    · obtain ⟨reply, rfl, heq⟩ := (hx _ _).mp hfail
      exact ⟨reply, [], rfl, Or.inl ⟨failure, heq.symm, rfl, rfl⟩⟩
    · obtain ⟨reply, rfl, heq⟩ := (hx _ _).mp hok
      exact ⟨reply, later, rfl, Or.inr ⟨a, heq.symm, hlater⟩⟩
  · rintro ⟨reply, rest, rfl, (⟨failure, heq, rfl, rfl⟩ | ⟨a, heq, hrest⟩)⟩
    · exact Or.inl ⟨failure, (hx _ _).mpr ⟨reply, rfl, heq.symm⟩, rfl⟩
    · exact Or.inr ⟨[_], rest, a, rfl, (hx _ _).mpr ⟨reply, rfl, heq.symm⟩, hrest⟩

theorem AsksOnce.bind {outcome : Outcome (Nodes.Value query) → Outcome α}
    {outcomes : α → Outcome β} (hx : AsksOnce x query outcome)
    (hf : ∀ a, Silent (f a) (outcomes a)) :
    AsksOnce (x >>= f) query fun reply => (outcome reply).bind outcomes := by
  intro talk out
  rw [hx.bind_iff]
  show _ ↔ ∃ reply, talk = [⟨query, reply⟩] ∧ out = (outcome reply).bind outcomes
  constructor
  · rintro ⟨reply, rest, rfl, (⟨failure, heq, rfl, rfl⟩ | ⟨a, heq, hrest⟩)⟩
    · exact ⟨reply, rfl, by rw [heq]; rfl⟩
    · obtain ⟨rfl, rfl⟩ := (hf a _ _).mp hrest
      exact ⟨reply, rfl, by rw [heq]; rfl⟩
  · rintro ⟨reply, rfl, rfl⟩
    refine ⟨reply, [], rfl, ?_⟩
    cases outcome reply with
    | error failure => exact Or.inl ⟨failure, rfl, rfl, rfl⟩
    | ok a => exact Or.inr ⟨a, rfl, (hf a _ _).mpr ⟨rfl, rfl⟩⟩

theorem AsksOnce.follows {outcome : Outcome (Nodes.Value query) → Outcome α}
    (hx : AsksOnce x query outcome) {steps : Outcome (Nodes.Value query) → List Step}
    (htalk : ∀ reply, Step.talk (steps reply) = [⟨query, reply⟩])
    (hfault : ∀ reply, Step.firstFault (steps reply) = fault? (outcome reply)) :
    Follows x steps outcome where
  leads_iff := by
    intro talk out
    rw [hx talk out]
    simp only [htalk]
  fault_eq := hfault

end Attempts

namespace Relay

variable {relay : Relay} {epoch : Epoch} {talk : List (Exchange Nodes)}

/-! ## The questions of a refresh -/

theorem silent_buildSchedule (assignments : List Assignment) :
    Silent (relay.buildSchedule epoch assignments)
      (Schedule.build relay.length epoch assignments) :=
  Silent.note (silent_mk _)

/-- What the reply about the next epoch amounts to. -/
def nextFrom (relay : Relay) (epoch : Epoch) (reply : Outcome (Epoch × List Assignment)) :
    Outcome Schedule :=
  reply.bind fun (next, assignments) =>
    if next = epoch + 1 then Schedule.build relay.length next assignments
    else .error (.headMoved (epoch + 1) next)

theorem asksOnce_fetchNext :
    AsksOnce (relay.fetchNext epoch) .upcoming (relay.nextFrom epoch) := by
  unfold fetchNext
  refine (asksOnce_direct .upcoming).bind fun (next, assignments) => ?_
  show Silent (if next ≠ epoch + 1 then throw (.headMoved (epoch + 1) next) >>= fun _ => _
    else relay.buildSchedule next assignments) (if next = epoch + 1 then _ else _)
  by_cases h : next = epoch + 1
  · rw [if_pos h, if_neg (not_not_intro h)]
    exact silent_buildSchedule assignments
  · rw [if_neg h, if_pos h]
    exact silent_throw_bind _

/-- What the reply about the current epoch amounts to, next to a schedule that may be known for it. -/
def currentFrom (relay : Relay) (epoch : Epoch) (known : Option Schedule)
    (reply : Outcome (List Assignment)) : Outcome Schedule :=
  reply.bind fun assignments =>
    (Schedule.build relay.length epoch assignments).bind fun schedule =>
      match known with
      | none => .ok schedule
      | some cached => (cached.checkFresh assignments).bind fun _ => .ok schedule

theorem asksOnce_fetchCurrent {known : Option Schedule} :
    AsksOnce (relay.fetchCurrent epoch known) (.duties epoch) (relay.currentFrom epoch known) := by
  unfold fetchCurrent
  refine (asksOnce_direct (.duties epoch)).bind fun assignments => ?_
  refine (silent_buildSchedule assignments).bind fun schedule _ => ?_
  cases known with
  | none => exact silent_mk (.ok schedule)
  | some cached =>
    exact Silent.note ((silent_mk (cached.checkFresh assignments)).bind fun _ _ =>
      silent_mk (.ok schedule))

/-- What the reply to a payload says. -/
def acknowledged : Bool → Acknowledgement
  | true => .accepted
  | false => .rejected

/-- The same for a reply that may be a failure. -/
def given : Outcome Bool → Acknowledgement
  | .ok answer => acknowledged answer
  | .error _ => .rejected

theorem asksOnce_publish (schedule : Schedule) :
    AsksOnce (relay.publish schedule) (.insert (relay.calendar.payload schedule))
      (Except.map acknowledged) := by
  intro talk out
  -- Each of the three kinds of reply has journal lines of its own, so they are taken one by one.
  show (Dialogue.bind (note _) fun _ => Dialogue.bind (Nodes.insert _) _).Leads talk out ↔ _
  rw [leads_note_bind_iff, leads_bind_iff]
  constructor
  · rintro ⟨earlier, later, reply, rfl, hask, hlater⟩
    obtain rfl := leads_ask_iff.mp hask
    refine ⟨reply, ?_⟩
    match reply, hlater with
    | .error failure, hlater => obtain ⟨rfl, rfl⟩ := leads_done_iff.mp hlater; exact ⟨rfl, rfl⟩
    | .ok true, hlater =>
      obtain ⟨rfl, rfl⟩ := leads_done_iff.mp (leads_noting_iff.mp hlater); exact ⟨rfl, rfl⟩
    | .ok false, hlater =>
      obtain ⟨rfl, rfl⟩ := leads_done_iff.mp (leads_noting_iff.mp hlater); exact ⟨rfl, rfl⟩
  · rintro ⟨reply, rfl, rfl⟩
    refine ⟨[⟨_, reply⟩], [], reply, rfl, leads_ask_iff.mpr rfl, ?_⟩
    match reply with
    | .error failure => exact .done
    | .ok true => exact .noting .done
    | .ok false => exact .noting .done

/-! ## The steps of a refresh -/

/-- The question about the next epoch, and what is looked at in the reply. -/
def nextSteps (relay : Relay) (epoch : Epoch) (reply : Outcome (Epoch × List Assignment)) :
    List Step :=
  [.ask .upcoming reply,
    .look reply fun (next, _) =>
      if next = epoch + 1 then none else some (.headMoved (epoch + 1) next),
    .look reply fun (_, assignments) =>
      Schedule.strayFault? relay.length (epoch + 1) assignments]

/-- The question about the current epoch, and what is looked at in the reply. -/
def currentSteps (relay : Relay) (epoch : Epoch) (known : Option Schedule)
    (reply : Outcome (List Assignment)) : List Step :=
  [.ask (.duties epoch) reply,
    .look reply fun assignments => Schedule.strayFault? relay.length epoch assignments,
    .look reply fun assignments => known.bind fun cached => fault? (cached.checkFresh assignments)]

/-- A schedule handed to the execution node. -/
def publishSteps (relay : Relay) (schedule : Option Schedule) (reply : Outcome Bool) : List Step :=
  schedule.toList.map fun schedule => .ask (.insert (relay.calendar.payload schedule)) reply

theorem follows_fetchNext :
    Follows (relay.fetchNext epoch) (relay.nextSteps epoch) (relay.nextFrom epoch) := by
  refine asksOnce_fetchNext.follows (fun reply => Step.talk_ask_looks (by simp [Step.look])) ?_
  intro reply
  cases reply with
  | error failure => rfl
  | ok answer =>
    obtain ⟨next, assignments⟩ := answer
    simp only [nextSteps, Step.firstFault_ask, Step.firstFault_look_ok, Step.firstFault_nil,
      fault?_ok, Option.none_or, Option.or_none]
    show _ = fault? (if next = epoch + 1 then _ else _)
    by_cases hnext : next = epoch + 1
    · subst hnext
      rw [if_pos rfl, if_pos rfl, Option.none_or, Schedule.fault_build]
    · rw [if_neg hnext, if_neg hnext]
      rfl

theorem follows_fetchCurrent {known : Option Schedule} :
    Follows (relay.fetchCurrent epoch known) (relay.currentSteps epoch known)
      (relay.currentFrom epoch known) := by
  refine asksOnce_fetchCurrent.follows (fun reply => Step.talk_ask_looks (by simp [Step.look])) ?_
  intro reply
  cases reply with
  | error failure => rfl
  | ok assignments =>
    simp only [currentSteps, Step.firstFault_ask, Step.firstFault_look_ok, Step.firstFault_nil,
      fault?_ok, Option.none_or, Option.or_none]
    show _ = fault? ((Schedule.build relay.length epoch assignments).bind _)
    rw [← Schedule.fault_build]
    cases Schedule.build relay.length epoch assignments with
    | error failure => rfl
    | ok schedule =>
      cases known with
      | none => rfl
      | some cached =>
        show fault? (cached.checkFresh assignments) = fault? ((cached.checkFresh assignments).bind _)
        cases cached.checkFresh assignments <;> rfl

theorem follows_publish (schedule : Schedule) :
    Follows (relay.publish schedule) (relay.publishSteps (some schedule))
      (Except.map acknowledged) := by
  refine (asksOnce_publish schedule).follows (fun reply => Step.talk_ask_looks (by simp)) ?_
  intro reply
  cases reply <;> rfl

/-- The steps of the publishing part, for the replies to the current and the next epoch. -/
def windowSteps (relay : Relay) (firstRun : Bool) (window : Window)
    (replies : Outcome Bool × Outcome Bool) : List Step :=
  (if firstRun then relay.publishSteps window.current replies.1 else []) ++
    relay.publishSteps window.next replies.2

/-- What the replies of the publishing part amount to, if neither of them is a failure. -/
def windowFrom (firstRun : Bool) (replies : Outcome Bool × Outcome Bool) :
    Outcome Acknowledgement :=
  (if firstRun then replies.1.map acknowledged else .ok .accepted).bind fun earlier =>
    (replies.2.map acknowledged).map earlier.both

theorem follows_publishWindow (firstRun : Bool) (current next : Schedule) :
    Follows (relay.publishWindow firstRun ⟨some current, some next⟩ next)
      (relay.windowSteps firstRun ⟨some current, some next⟩) (windowFrom firstRun) := by
  have hnext : ∀ earlier : Acknowledgement,
      Follows (relay.publish next >>= fun later => pure (earlier.both later))
        (relay.publishSteps (some next)) (fun reply => (reply.map acknowledged).map earlier.both) := by
    intro earlier
    rw [bind_pure_comp]
    exact (follows_publish next).map earlier.both
  cases firstRun with
  | true => exact (follows_publish current).bind fun _ earlier _ => hnext earlier
  | false => exact (Follows.of_pure (R := Outcome Bool) .accepted).bind fun _ earlier _ => hnext earlier

/-! ## A refresh -/

/-- The schedule that a reply with assignments for an epoch amounts to, if it amounts to one. -/
def built? (relay : Relay) (epoch : Epoch) (reply : Outcome (List Assignment)) : Option Schedule :=
  (reply.bind (Schedule.build relay.length epoch)).toOption

/-- The window that a refresh moves on to: the staged schedule, or else the one fetched for the epoch,
and the one fetched for the next epoch. -/
def moved (relay : Relay) (window : Window) (epoch : Epoch)
    (upcoming : Outcome (Epoch × List Assignment)) (duties : Outcome (List Assignment)) : Window :=
  ⟨(window.staged? epoch).or (relay.built? epoch duties),
    relay.built? (epoch + 1) (upcoming.map Prod.snd)⟩

/-- The schedule fetched for the current epoch, where it is fetched. -/
def freshFrom (relay : Relay) (window : Window) (epoch : Epoch) (firstRun : Bool)
    (duties : Outcome (List Assignment)) : Outcome (Option Schedule) :=
  if relay.revalidates firstRun (window.staged? epoch) then
    (relay.currentFrom epoch (window.staged? epoch) duties).map some
  else .ok none

/-- The steps by which the current epoch is fetched, where it is fetched. -/
def freshSteps (relay : Relay) (window : Window) (epoch : Epoch) (firstRun : Bool)
    (duties : Outcome (List Assignment)) : List Step :=
  if relay.revalidates firstRun (window.staged? epoch) then
    relay.currentSteps epoch (window.staged? epoch) duties
  else []

theorem nextFrom_eq_ok {reply : Outcome (Epoch × List Assignment)} {next : Schedule}
    (h : relay.nextFrom epoch reply = .ok next) :
    relay.built? (epoch + 1) (reply.map Prod.snd) = some next ∧ next.epoch = epoch + 1 := by
  cases reply with
  | error failure => cases h
  | ok answer =>
    obtain ⟨reported, assignments⟩ := answer
    change (if reported = epoch + 1 then _ else _) = _ at h
    split at h
    · rename_i hreported
      subst hreported
      refine ⟨?_, Schedule.epoch_of_build h⟩
      show (Schedule.build relay.length (epoch + 1) assignments).toOption = _
      rw [h]
      rfl
    · cases h

theorem currentFrom_eq_ok {known : Option Schedule} {reply : Outcome (List Assignment)}
    {schedule : Schedule} (h : relay.currentFrom epoch known reply = .ok schedule) :
    relay.built? epoch reply = some schedule ∧ schedule.epoch = epoch := by
  cases reply with
  | error failure => cases h
  | ok assignments =>
    change (Schedule.build relay.length epoch assignments).bind _ = _ at h
    show (Schedule.build relay.length epoch assignments).toOption = _ ∧ _
    cases hbuild : Schedule.build relay.length epoch assignments with
    | error failure => rw [hbuild] at h; cases h
    | ok built =>
      rw [hbuild] at h
      have heq : built = schedule := by
        cases known with
        | none => cases h; rfl
        | some cached =>
          change (cached.checkFresh assignments).bind _ = _ at h
          cases hcheck : cached.checkFresh assignments with
          | error failure => rw [hcheck] at h; cases h
          | ok _ => rw [hcheck] at h; cases h; rfl
      subst heq
      exact ⟨rfl, Schedule.epoch_of_build hbuild⟩

/-- Where nothing goes wrong up to the publishing part, the schedule to become current is at hand. -/
theorem current_of_freshFrom {window : Window} {firstRun : Bool}
    {duties : Outcome (List Assignment)} {fresh : Option Schedule}
    (h : relay.freshFrom window epoch firstRun duties = .ok fresh) :
    ∃ current, (window.staged? epoch).or fresh = some current ∧
      (window.staged? epoch).or (relay.built? epoch duties) = some current ∧
      current.epoch = epoch := by
  cases hstaged : window.staged? epoch with
  | some staged => exact ⟨staged, rfl, rfl, (Window.staged?_eq_some hstaged).1⟩
  | none =>
    -- Nothing is staged, so the current epoch has been fetched.
    have hfetch : relay.revalidates firstRun none = true := by
      unfold revalidates
      rw [Option.isNone_none, Bool.or_true, Bool.true_or]
    rw [freshFrom, hstaged, if_pos hfetch] at h
    cases hcurrent : relay.currentFrom epoch none duties with
    | error failure => rw [hcurrent] at h; cases h
    | ok schedule =>
      rw [hcurrent] at h
      cases h
      obtain ⟨hbuilt, hepoch⟩ := currentFrom_eq_ok hcurrent
      exact ⟨schedule, rfl, hbuilt, hepoch⟩

theorem follows_fresh {window : Window} {firstRun : Bool} :
    Follows (if relay.revalidates firstRun (window.staged? epoch) then
        some <$> relay.fetchCurrent epoch (window.staged? epoch) else pure none)
      (relay.freshSteps window epoch firstRun) (relay.freshFrom window epoch firstRun) := by
  unfold freshSteps freshFrom
  by_cases h : relay.revalidates firstRun (window.staged? epoch) = true
  · simp only [if_pos h]
    exact follows_fetchCurrent.map some
  · simp only [if_neg h]
    exact Follows.of_pure none

/-- The part of a refresh that begins with the move of the window. -/
def moving (relay : Relay) (window : Window) (firstRun : Bool) (next : Schedule)
    (fresh : Option Schedule) : Attempt (Window × Acknowledgement) := do
  Attempt.note (window.promoteLines next fresh)
  let moved ← ExceptT.mk (pure (window.promote next fresh))
  let announced ← ExceptT.mk (pure (moved.announced next.epoch))
  let acknowledgement ← relay.publishWindow firstRun moved announced
  return (moved, acknowledgement)

theorem follows_moving {window : Window} {firstRun : Bool} {next : Schedule}
    {upcoming : Outcome (Epoch × List Assignment)} {duties : Outcome (List Assignment)}
    {fresh : Option Schedule} (hnext : relay.nextFrom epoch upcoming = .ok next)
    (hfresh : relay.freshFrom window epoch firstRun duties = .ok fresh) :
    Follows (relay.moving window firstRun next fresh)
      (relay.windowSteps firstRun (relay.moved window epoch upcoming duties))
      (fun replies => (windowFrom firstRun replies).map fun acknowledgement =>
        (⟨(window.staged? epoch).or fresh, some next⟩, acknowledgement)) := by
  obtain ⟨current, hcurrent, hmoved, hepoch⟩ := current_of_freshFrom hfresh
  obtain ⟨hbuilt, hnextEpoch⟩ := nextFrom_eq_ok hnext
  have hwindow : relay.moved window epoch upcoming duties = ⟨some current, some next⟩ := by
    rw [moved, hmoved, hbuilt]
  rw [hwindow, hcurrent]
  refine Follows.note ?_
  rw [Window.promote_eq_ok hnextEpoch hcurrent hepoch]
  show Follows (relay.publishWindow firstRun ⟨some current, some next⟩ next >>= fun acknowledgement =>
    pure (_, acknowledgement)) _ _
  rw [bind_pure_comp]
  exact (follows_publishWindow firstRun current next).map _

/-- What the replies of one refresh amount to. -/
def refreshFrom (relay : Relay) (window : Window) (epoch : Epoch) (firstRun : Bool)
    (upcoming : Outcome (Epoch × List Assignment)) (duties : Outcome (List Assignment))
    (published : Outcome Bool × Outcome Bool) : Outcome (Window × Acknowledgement) :=
  (relay.nextFrom epoch upcoming).bind fun next =>
    (relay.freshFrom window epoch firstRun duties).bind fun fresh =>
      (windowFrom firstRun published).map fun acknowledgement =>
        (⟨(window.staged? epoch).or fresh, some next⟩, acknowledgement)

/-- The parts of a refresh in a row. In the code what comes after the decision to fetch stands in both of its
branches; here it comes once, after the decision. -/
theorem refresh_parts {window : Window} {firstRun : Bool} :
    relay.refresh window epoch firstRun = (relay.fetchNext epoch >>= fun next =>
      (if relay.revalidates firstRun (window.staged? epoch) then
          some <$> relay.fetchCurrent epoch (window.staged? epoch)
        else pure none) >>= fun fresh =>
      relay.moving window firstRun next fresh) := by
  refine congrArg (relay.fetchNext epoch >>= ·) (funext fun next => ?_)
  by_cases h : relay.revalidates firstRun (window.staged? epoch) = true
  · simp only [if_pos h]
    rfl
  · simp only [if_neg h]
    rfl

theorem follows_refresh {window : Window} {firstRun : Bool} :
    Follows (relay.refresh window epoch firstRun)
      (fun replies : Outcome (Epoch × List Assignment) × Outcome (List Assignment) ×
          Outcome Bool × Outcome Bool =>
        relay.nextSteps epoch replies.1 ++
          (relay.freshSteps window epoch firstRun replies.2.1 ++
            relay.windowSteps firstRun (relay.moved window epoch replies.1 replies.2.1) replies.2.2))
      (fun replies => relay.refreshFrom window epoch firstRun replies.1 replies.2.1 replies.2.2) := by
  rw [refresh_parts]
  exact follows_fetchNext.bind fun _ _ hnext => follows_fresh.bind fun _ _ hfresh =>
    follows_moving hnext hfresh

end Relay

/-! ## All the replies of a tick -/

/-- How the nodes reply to the questions of one tick, if they are put. -/
structure Replies where
  head : Outcome Slot
  upcoming : Outcome (Epoch × List Assignment)
  /-- The assignments for the current epoch. -/
  duties : Outcome (List Assignment)
  /-- To the payload of the current epoch. -/
  current : Outcome Bool
  /-- To the payload of the next epoch. -/
  next : Outcome Bool

namespace Relay

variable {relay : Relay} {window : Window} {epoch : Epoch} {firstRun : Bool} {replies : Replies}
  {talk : List (Exchange Nodes)}

/-- The window that a refresh moves on to if nothing goes wrong. -/
def windowAfter (relay : Relay) (window : Window) (epoch : Epoch) (replies : Replies) : Window :=
  relay.moved window epoch replies.upcoming replies.duties

/-- What is said about the payloads of a refresh altogether, if nothing goes wrong. -/
def verdict (firstRun : Bool) (replies : Replies) : Acknowledgement :=
  (if firstRun then given replies.current else .accepted).both (given replies.next)

/-- The steps of a refresh. -/
def refreshSteps (relay : Relay) (window : Window) (epoch : Epoch) (firstRun : Bool)
    (replies : Replies) : List Step :=
  relay.nextSteps epoch replies.upcoming ++
    (relay.freshSteps window epoch firstRun replies.duties ++
      relay.windowSteps firstRun (relay.windowAfter window epoch replies)
        (replies.current, replies.next))

theorem windowFrom_eq_ok {acknowledgement : Acknowledgement}
    (h : windowFrom firstRun (replies.current, replies.next) = .ok acknowledgement) :
    acknowledgement = verdict firstRun replies := by
  obtain ⟨_, _, _, current, next⟩ := replies
  unfold verdict
  cases firstRun <;> cases current <;> cases next <;> cases h <;> rfl

theorem refreshFrom_eq_ok {value : Window × Acknowledgement}
    (h : relay.refreshFrom window epoch firstRun replies.upcoming replies.duties
      (replies.current, replies.next) = .ok value) :
    value = (relay.windowAfter window epoch replies, verdict firstRun replies) := by
  unfold refreshFrom at h
  cases hnext : relay.nextFrom epoch replies.upcoming with
  | error failure => rw [hnext] at h; cases h
  | ok next =>
    cases hfresh : relay.freshFrom window epoch firstRun replies.duties with
    | error failure => rw [hnext, hfresh] at h; cases h
    | ok fresh =>
      cases hack : windowFrom firstRun (replies.current, replies.next) with
      | error failure => rw [hnext, hfresh, hack] at h; cases h
      | ok acknowledgement =>
        rw [hnext, hfresh, hack] at h
        obtain ⟨current, hcurrent, hmoved, _⟩ := current_of_freshFrom hfresh
        cases h
        rw [windowFrom_eq_ok hack, windowAfter, moved, hmoved, (nextFrom_eq_ok hnext).1, hcurrent]

/-- **A refresh takes its steps in order.** It comes to the first fault, and to the window moved on if
there is none. -/
theorem refresh_leads_iff {out : Outcome (Window × Acknowledgement)} :
    (relay.refresh window epoch firstRun).run.Leads talk out ↔
      ∃ replies, talk = Step.talk (relay.refreshSteps window epoch firstRun replies) ∧
        out = Step.conclude (relay.refreshSteps window epoch firstRun replies)
          (relay.windowAfter window epoch replies, verdict firstRun replies) := by
  have hfollows : Follows (relay.refresh window epoch firstRun)
      (relay.refreshSteps window epoch firstRun) (fun replies => relay.refreshFrom window epoch
        firstRun replies.upcoming replies.duties (replies.current, replies.next)) :=
    follows_refresh.reindex
      (e := fun replies : Replies =>
        (replies.upcoming, replies.duties, replies.current, replies.next))
      (fun ⟨upcoming, duties, current, next⟩ => ⟨⟨.ok 0, upcoming, duties, current, next⟩, rfl⟩)
  rw [hfollows.leads_iff]
  have heq := fun replies : Replies => hfollows.outcome_eq replies fun _ => refreshFrom_eq_ok
  constructor
  · rintro ⟨replies, rfl, rfl⟩; exact ⟨replies, rfl, heq replies⟩
  · rintro ⟨replies, rfl, rfl⟩; exact ⟨replies, rfl, (heq replies).symm⟩

end Relay
end DutyRelay
