import DutyRelay.Proofs.Run

/-!
# Ticks that complete nothing leave no trace

A tick that fails, at whatever point, and a tick for which no refresh is due change nothing but the head
slot, and the head slot has no influence on anything that follows. So such ticks can be put into a run or
left out of it, and the other ticks ask, get and do the same.

## Contents
- `State.SameButHead`: states that differ in the head slot at most.
- `tick_sameButHead`, `tick_bisimulation`: one tick.
- `Turn.heard`: what a turn looks like from outside.
- `Relay.Echoes`, `Run.sameButHead`, `Run.onlyCommits`: whole runs.
- `uncommitted_ticks_invisible`: all of it together.
-/

namespace DutyRelay

open Dialogue

namespace Relay

/-! ## States that differ in the head slot -/

/-- The states differ in the head slot at most. The number of times that readers were told something is
the same as well. -/
structure State.SameButHead (s t : State) : Prop where
  lastProcessed : t.progress.lastProcessed = s.progress.lastProcessed
  firstRun : t.progress.firstRun = s.progress.firstRun
  window : t.window = s.window
  broadcast : t.broadcast = s.broadcast

variable {relay : Relay} {s t u : State} {talk : List (Exchange Nodes)}
  {result : Outcome TickResult} {after : State} {head : Slot}

namespace State.SameButHead

theorem refl : s.SameButHead s := ⟨rfl, rfl, rfl, rfl⟩

theorem symm (h : s.SameButHead t) : t.SameButHead s :=
  ⟨h.lastProcessed.symm, h.firstRun.symm, h.window.symm, h.broadcast.symm⟩

theorem trans (h : s.SameButHead t) (h' : t.SameButHead u) : s.SameButHead u :=
  ⟨h'.lastProcessed.trans h.lastProcessed, h'.firstRun.trans h.firstRun,
    h'.window.trans h.window, h'.broadcast.trans h.broadcast⟩

theorem see : s.SameButHead (s.see head) := ⟨rfl, rfl, rfl, rfl⟩

/-- Seeing the head makes up for the difference. -/
theorem see_eq (h : s.SameButHead t) : t.see head = s.see head := by
  obtain ⟨⟨lastProcessed, headSlot, firstRun⟩, window, broadcast⟩ := s
  obtain ⟨⟨lastProcessed', headSlot', firstRun'⟩, window', broadcast'⟩ := t
  obtain ⟨rfl, rfl, rfl, rfl⟩ := h
  rfl

theorem transition_eq (h : s.SameButHead t) :
    t.progress.transition relay.length head = s.progress.transition relay.length head := by
  unfold Progress.transition
  rw [h.firstRun, h.lastProcessed]

end State.SameButHead

/-! ## One tick -/

/-- **A tick that completes nothing changes at most the head slot.** -/
theorem tick_sameButHead (h : (relay.tick s).Leads talk (result, after))
    (hresult : commits result = false) : s.SameButHead after := by
  obtain ⟨replies, hcourse⟩ := tick_leads_iff.mp h
  cases hcourse with
  | unseen hhead => exact .refl
  | idle hhead hsettled => exact .see
  | aborted hhead hdue hfault => exact .see
  | committed hhead hdue hfault => cases hresult

/-- Where no refresh is due, nothing but the head is asked for. -/
theorem talk_of_idle {epoch : Epoch} (h : (relay.tick s).Leads talk (.ok (.idle epoch), after)) :
    ∃ head, talk = [⟨.head, .ok head⟩] := by
  obtain ⟨replies, hcourse⟩ := tick_leads_iff.mp h
  cases hcourse with
  | idle hhead hsettled => exact ⟨_, rfl⟩

/-- States in the relation cannot be told apart: the same can be said in a tick from either of them, and
if the same is said, the ticks come to the same and the states afterwards are in the relation again. -/
structure IsBisimulation (relay : Relay) (R : State → State → Prop) : Prop where
  leads_iff : ∀ s t talk, R s t →
    ((∃ out, (relay.tick s).Leads talk out) ↔ ∃ out, (relay.tick t).Leads talk out)
  related : ∀ s t talk result after result' after', R s t →
    (relay.tick s).Leads talk (result, after) → (relay.tick t).Leads talk (result', after') →
    result' = result ∧ R after after'

theorem tick_of_sameButHead (hst : s.SameButHead t)
    (h : (relay.tick s).Leads talk (result, after)) :
    ∃ after', (relay.tick t).Leads talk (result, after') ∧ after.SameButHead after' := by
  obtain ⟨replies, hcourse⟩ := tick_leads_iff.mp h
  cases hcourse with
  | unseen hhead => exact ⟨t, tick_leads_iff.mpr ⟨replies, .unseen hhead⟩, hst⟩
  -- From here on the head has been seen, and the states afterwards are not only alike but equal.
  | idle hhead hsettled =>
    rw [← hst.transition_eq] at hsettled
    exact ⟨_, tick_leads_iff.mpr ⟨replies, .idle hhead hsettled⟩, hst.see_eq ▸ .refl⟩
  | aborted hhead hdue hfault =>
    rw [← hst.transition_eq] at hdue
    rw [← hst.window] at hfault ⊢
    exact ⟨_, tick_leads_iff.mpr ⟨replies, .aborted hhead hdue hfault⟩, hst.see_eq ▸ .refl⟩
  | committed hhead hdue hfault =>
    rw [← hst.transition_eq] at hdue
    rw [← hst.window] at hfault ⊢
    exact ⟨_, tick_leads_iff.mpr ⟨replies, .committed hhead hdue hfault⟩, hst.see_eq ▸ .refl⟩

/-- **The head slot is without influence.** -/
theorem tick_bisimulation : relay.IsBisimulation State.SameButHead where
  leads_iff := by
    have hforth : ∀ {s t : State} {talk : List (Exchange Nodes)}, s.SameButHead t →
        (∃ out, (relay.tick s).Leads talk out) → ∃ out, (relay.tick t).Leads talk out := by
      rintro s t talk hst ⟨⟨result, after⟩, h⟩
      obtain ⟨after', h', _⟩ := tick_of_sameButHead hst h
      exact ⟨_, h'⟩
    intro s t talk hst
    exact ⟨hforth hst, hforth hst.symm⟩
  related := by
    intro s t talk result after result' after' hst h h'
    obtain ⟨expected, hexpected, hsame⟩ := tick_of_sameButHead hst h
    -- What is said decides what a tick comes to.
    cases hexpected.unique h'
    exact ⟨rfl, hsame⟩

/-! ## Whole runs -/

/-- What a turn looks like from outside: what was said in it and what it came to. -/
def Turn.heard (turn : Turn) : List (Exchange Nodes) × Outcome TickResult := (turn.talk, turn.result)

variable {turns later : List Turn}

/-- Whatever is heard in a run from the first state can be heard in a run from the second one, and the
two runs end in states that differ in the head slot at most. -/
def Echoes (relay : Relay) (s t : State) : Prop :=
  ∀ turns u, relay.Run s turns u →
    ∃ turns' u', relay.Run t turns' u' ∧ turns'.map Turn.heard = turns.map Turn.heard ∧
      u.SameButHead u'

theorem State.SameButHead.echoes (hst : s.SameButHead t) : relay.Echoes s t := by
  intro turns u hrun
  induction hrun with
  | refl => exact ⟨[], t, .refl, rfl, hst⟩
  | tail _ htick ih =>
    obtain ⟨turns', before', hrun', hheard, hbefore⟩ := ih
    obtain ⟨after', htick', hafter⟩ := tick_of_sameButHead hbefore htick
    refine ⟨_, after', hrun'.tail htick', ?_, hafter⟩
    rw [List.map_append, List.map_append, hheard]
    rfl

/-- Any number of ticks that complete nothing change at most the head slot. -/
theorem Run.sameButHead (hrun : relay.Run s turns u) (hturns : ∀ turn ∈ turns, turn.commits = false) :
    s.SameButHead u := by
  induction hrun with
  | refl => exact .refl
  | tail _ htick ih =>
    have hearlier := ih fun turn hturn => hturns turn (List.mem_append_left _ hturn)
    have hlast := hturns _ (List.mem_append_right _ (List.mem_singleton.mpr rfl))
    exact hearlier.trans (tick_sameButHead htick hlast)

/-- **The completed refreshes of a run are a run of their own.** -/
theorem Run.onlyCommits (hrun : relay.Run s turns u) :
    ∃ turns' u', relay.Run s turns' u' ∧
      turns'.map Turn.heard = (turns.filter Turn.commits).map Turn.heard ∧ u.SameButHead u' := by
  induction hrun with
  | refl => exact ⟨[], s, .refl, rfl, .refl⟩
  | @tail turns before talk result after _ htick ih =>
    obtain ⟨turns', before', hrun', hheard, hbefore⟩ := ih
    rw [List.filter_append, List.map_append]
    cases hcommits : commits result with
    | true =>
      obtain ⟨after', htick', hafter⟩ := tick_of_sameButHead hbefore htick
      have hfilter : [(⟨before, talk, result, after⟩ : Turn)].filter Turn.commits =
          [⟨before, talk, result, after⟩] := List.filter_eq_self.mpr (by simpa [Turn.commits])
      refine ⟨_, after', hrun'.tail htick', ?_, hafter⟩
      rw [List.map_append, hheard, hfilter]
      rfl
    | false =>
      have hfilter : [(⟨before, talk, result, after⟩ : Turn)].filter Turn.commits = [] :=
        List.filter_eq_nil_iff.mpr (by simpa [Turn.commits])
      refine ⟨turns', before', hrun', ?_, (tick_sameButHead htick hcommits).symm.trans hbefore⟩
      rw [hheard, hfilter, List.map_nil, List.append_nil]

/-- **Ticks that complete nothing are invisible.** Whatever the nodes reply,
- a tick that fails or finds no refresh due changes at most the head slot;
- a tick that finds no refresh due asks for the head only;
- states that differ in the head slot at most are bisimilar;
- after any number of ticks that complete nothing, what follows is as it would have been without them;
- and a run without all of these ticks is a run. -/
theorem uncommitted_ticks_invisible (relay : Relay) :
    (∀ state talk result after, (relay.tick state).Leads talk (result, after) →
      commits result = false → state.SameButHead after) ∧
    (∀ state talk epoch after, (relay.tick state).Leads talk (.ok (.idle epoch), after) →
      ∃ head, talk = [⟨.head, .ok head⟩]) ∧
    relay.IsBisimulation State.SameButHead ∧
    (∀ state pause paused, relay.Run state pause paused →
      (∀ turn ∈ pause, turn.commits = false) →
      relay.Echoes state paused ∧ relay.Echoes paused state) ∧
    (∀ start turns state, relay.Run start turns state →
      ∃ turns' state', relay.Run start turns' state' ∧
        turns'.map Turn.heard = (turns.filter Turn.commits).map Turn.heard ∧
        state.SameButHead state') := by
  refine ⟨fun _ _ _ _ => tick_sameButHead, fun _ _ _ _ => talk_of_idle, tick_bisimulation, ?_,
    fun _ _ _ => Run.onlyCommits⟩
  intro state pause paused hpause hturns
  have hsame := hpause.sameButHead hturns
  exact ⟨hsame.echoes, hsame.symm.echoes⟩

/-- A first tick that sees the head in the second epoch and then gets no duties: the head slot is all that
is left of it, and what may follow is what might have happened without it. -/
theorem aborted_tick_invisible :
    ∃ talk after, (Relay.standard.tick State.start).Leads talk (.error (.unavailable "duties"), after) ∧
      after.progress.headSlot = 40 ∧ State.start.SameButHead after ∧
      Relay.standard.Echoes State.start after ∧ Relay.standard.Echoes after State.start := by
  have hdue : State.start.progress.transition Relay.standard.length 40 = .due 1 true := rfl
  have htick := tick_leads_iff.mpr ⟨⟨.ok 40, .error (.unavailable "duties"), .ok [], .ok true, .ok true⟩,
    .aborted rfl hdue rfl⟩
  obtain ⟨hframe, _, _, hpause, _⟩ := uncommitted_ticks_invisible Relay.standard
  refine ⟨_, _, htick, rfl, hframe _ _ _ _ htick rfl, ?_⟩
  refine hpause _ _ _ (Run.single htick) fun turn hturn => ?_
  obtain rfl := List.mem_singleton.mp hturn
  rfl

end Relay
end DutyRelay
