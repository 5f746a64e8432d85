import DutyRelay.Proofs.Tick
import DutyRelay.Proofs.Clean

/-!
# Runs

A run is a sequence of ticks, each of which begins in the state that the one before it left. Nothing is
assumed about the replies, so a statement about all runs is one about all heads, all duties and all
failures, in any order.

## Contents
- `Turn`: one tick of a run, with what was said in it; `Turn.commits`.
- `Relay.Run`, `Run.single`, `Run.append`, `Run.split`, `Run.reaches`.
- `Run.invariant`: what every tick preserves holds after every run.
- `Run.played`: any party that replies brings about a run.
- `Relay.turnFor`, `Relay.enact`, `Relay.stateAfter`, `enact_run`: the run for a script of replies.
- `Relay.standard`, `Relay.quietReplies`, `Relay.repliesAt`: a relay and replies for concrete cases.
-/

namespace DutyRelay

namespace Relay

/-- One tick of a run. -/
structure Turn where
  before : State
  talk : List (Exchange Nodes)
  result : Outcome TickResult
  after : State

/-- What a tick came to is a completed refresh. -/
def commits : Outcome TickResult → Bool
  | .ok (.committed _ _) => true
  | .ok (.idle _) => false
  | .error _ => false

/-- A refresh was completed in the turn. -/
def Turn.commits (turn : Turn) : Bool := Relay.commits turn.result

/-- The ticks in the list, one after another, lead from the first state to the second. -/
inductive Run (relay : Relay) : State → List Turn → State → Prop
  | refl {state} : Run relay state [] state
  | tail {start turns before talk result after} (hrun : Run relay start turns before)
      (htick : (relay.tick before).Leads talk (result, after)) :
      Run relay start (turns ++ [⟨before, talk, result, after⟩]) after

variable {relay : Relay} {start middle state : State} {turns later : List Turn} {turn : Turn}

theorem Run.single {talk : List (Exchange Nodes)} {result : Outcome TickResult} {after : State}
    (h : (relay.tick state).Leads talk (result, after)) :
    relay.Run state [⟨state, talk, result, after⟩] after := Run.tail .refl h

theorem Run.append (h : relay.Run start turns middle) (hlater : relay.Run middle later state) :
    relay.Run start (turns ++ later) state := by
  induction hlater with
  | refl => rwa [List.append_nil]
  | tail _ htick ih => rw [← List.append_assoc]; exact .tail ih htick

/-- What holds at the start and is preserved by every tick holds after the run. -/
theorem Run.invariant {Inv : State → Prop} (h : relay.Run start turns state) (hstart : Inv start)
    (hstep : ∀ before talk result after, Inv before →
      (relay.tick before).Leads talk (result, after) → Inv after) : Inv state := by
  induction h with
  | refl => exact hstart
  | tail _ htick ih => exact hstep _ _ _ _ ih htick

/-- Every turn of a run is a tick. -/
theorem Run.tick_of_mem (hrun : relay.Run start turns state) (hturn : turn ∈ turns) :
    (relay.tick turn.before).Leads turn.talk (turn.result, turn.after) := by
  induction hrun with
  | refl => cases hturn
  | tail _ htick ih =>
    rcases List.mem_append.mp hturn with hturn | hturn
    · exact ih hturn
    · obtain rfl := List.mem_singleton.mp hturn
      exact htick

/-- A run falls into two wherever one likes. -/
theorem Run.split (h : relay.Run start (turns ++ later) state) :
    ∃ middle, relay.Run start turns middle ∧ relay.Run middle later state := by
  generalize hall : turns ++ later = all at h
  induction h generalizing later with
  | refl =>
    obtain ⟨rfl, rfl⟩ := List.append_eq_nil_iff.mp hall
    exact ⟨_, .refl, .refl⟩
  | @tail all before talk result after hrun htick ih =>
    -- The last turn is one of those that come later, unless there are none.
    rcases List.eq_nil_or_concat later with rfl | ⟨between, last, rfl⟩
    · rw [List.append_nil] at hall
      exact ⟨after, hall ▸ hrun.tail htick, .refl⟩
    · rw [List.concat_eq_append, ← List.append_assoc] at hall
      obtain ⟨hall, hlast⟩ := List.append_inj' hall rfl
      obtain ⟨middle, hbefore, hlater⟩ := ih hall
      cases hlast
      rw [List.concat_eq_append]
      exact ⟨middle, hbefore, hlater.tail htick⟩

theorem Run.eq_of_nil (h : relay.Run start [] state) : state = start := by
  generalize hnil : ([] : List Turn) = all at h
  cases h with
  | refl => rfl
  | tail _ _ => simp at hnil

/-- The first turn of a run begins where the run begins. -/
theorem Run.before_eq (h : relay.Run start (turn :: turns) state) : turn.before = start := by
  generalize hall : turn :: turns = all at h
  induction h generalizing turns with
  | refl => cases hall
  | @tail all before talk result after hrun htick ih =>
    cases all with
    | nil =>
      cases hall
      exact hrun.eq_of_nil
    | cons first rest =>
      cases hall
      exact ih rfl

/-- Every turn of a run is reached by the turns before it. -/
theorem Run.reaches (h : relay.Run start (turns ++ turn :: later) state) :
    relay.Run start turns turn.before := by
  obtain ⟨middle, hbefore, hlater⟩ := h.split
  rw [hlater.before_eq]
  exact hbefore

/-- **Whoever replies, a run goes on.** Carrying out one more tick with a party adds a turn to the run. -/
theorem Run.played {σ : Type} (answer : (query : Nodes.Query) → σ → Nodes.Reply query × σ) (s : σ)
    (h : relay.Run start turns state) :
    ∃ talk, relay.Run start
      (turns ++ [⟨state, talk, ((relay.tick state).play answer s).value.1,
        ((relay.tick state).play answer s).value.2⟩])
      ((relay.tick state).play answer s).value.2 := by
  obtain ⟨talk, htalk⟩ := Dialogue.leads_play answer (relay.tick state) s
  exact ⟨talk, h.tail htalk⟩

/-! ## Scripts -/

/-- The turn that a relay takes for given replies. -/
def turnFor (relay : Relay) (state : State) (replies : Replies) : Turn :=
  match replies.head with
  | .error failure => ⟨state, [⟨.head, .error failure⟩], .error failure, state⟩
  | .ok head =>
    match state.progress.transition relay.length head with
    | .settled epoch => ⟨state, [⟨.head, .ok head⟩], .ok (.idle epoch), state.see head⟩
    | .due epoch firstRun =>
      let steps := relay.refreshSteps state.window epoch firstRun replies
      match Step.firstFault steps with
      | some failure =>
        ⟨state, ⟨.head, .ok head⟩ :: Step.talk steps, .error failure, state.see head⟩
      | none =>
        ⟨state, ⟨.head, .ok head⟩ :: Step.fullTalk steps,
          .ok (.committed epoch (verdict firstRun replies)),
          (state.see head).commit epoch (relay.windowAfter state.window epoch replies)⟩

/-- The turns that a relay takes for a script, which holds the replies of one tick after another. -/
def enact (relay : Relay) : State → List Replies → List Turn
  | _, [] => []
  | state, replies :: script =>
    relay.turnFor state replies :: relay.enact (relay.turnFor state replies).after script

/-- The state that the relay is in after a script. -/
def stateAfter (relay : Relay) : State → List Replies → State
  | state, [] => state
  | state, replies :: script => relay.stateAfter (relay.turnFor state replies).after script

theorem turnFor_run (replies : Replies) :
    relay.Run state [relay.turnFor state replies] (relay.turnFor state replies).after := by
  unfold turnFor
  cases hhead : replies.head with
  | error failure => exact Run.single (tick_leads_iff.mpr ⟨replies, .unseen hhead⟩)
  | ok head =>
    cases hprogress : state.progress.transition relay.length head with
    | settled epoch =>
      simp only [hprogress]
      exact Run.single (tick_leads_iff.mpr ⟨replies, .idle hhead hprogress⟩)
    | due epoch firstRun =>
      simp only [hprogress]
      cases hfault : Step.firstFault (relay.refreshSteps state.window epoch firstRun replies) with
      | some failure =>
        exact Run.single (tick_leads_iff.mpr ⟨replies, .aborted hhead hprogress hfault⟩)
      | none => exact Run.single (tick_leads_iff.mpr ⟨replies, .committed hhead hprogress hfault⟩)

/-- **Every script is a run.** -/
theorem enact_run (script : List Replies) :
    relay.Run state (relay.enact state script) (relay.stateAfter state script) := by
  induction script generalizing state with
  | nil => exact .refl
  | cons replies script ih => exact (turnFor_run replies).append ih

/-! ## A relay and nodes to start with -/

/-- A relay on a chain with epochs of the standard length. -/
def standard : Relay where
  length := EpochLength.standard
  calendar := ⟨0, Span.ofSeconds 6⟩
  pollInterval := Span.ofSeconds 10
  pollInterval_pos := by decide
  revalidation := .always

/-- Nodes whose chain is in the first epoch and which know of no proposer. -/
def quietReplies : Replies := ⟨.ok 0, .ok (1, []), .ok [], .ok true, .ok true⟩

/-- One validator with its number as its key, which proposes the first slot of an epoch. -/
def loneProposer (epoch : Epoch) (validator : ValidatorIndex) : List Assignment :=
  [⟨validator, ⟨[UInt8.ofNat validator]⟩, [standard.length.firstSlot epoch]⟩]

/-- Nodes whose chain is at a slot, with one proposer in its epoch and one in the next, and which accept
every payload. -/
def repliesAt (head : Slot) (current next : ValidatorIndex) : Replies :=
  let epoch := standard.length.epochOf head
  ⟨.ok head, .ok (epoch + 1, loneProposer (epoch + 1) next), .ok (loneProposer epoch current), .ok true,
    .ok true⟩

end Relay
end DutyRelay
