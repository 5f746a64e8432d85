import DutyRelay.Proofs.Building
import DutyRelay.Proofs.Progression
import Mathlib.Algebra.Order.Ring.Nat

/-!
# When epochs start

With a payload goes the time at which its epoch starts. It is worked out in words: the seconds of a slot times the
slots of an epoch, times the epoch, added to the genesis time, and each of the three steps stops at the largest word.
That amounts to the exact time, clamped once at the end.

But the seconds of a slot are whole ones, cut off before anything is multiplied. A configuration passes its check
with slots of half a second, and then an epoch takes no time at all: every epoch starts at the genesis time.

## Contents
- `startTime_eq_clamp`, `startTime_clamped_once`: the start of an epoch, clamped once.
- `Calendar.Advances`, `advances_iff`: whether later epochs start later.
- `published`, `start_of_published`: the starts in the payloads of a run.
- `Relay.StartsApart`, `startsApart_iff`: whether the starts tell epochs apart.
- `starts_advance_iff`: the configurations with which both hold; `starts_stand_still`: one with which neither does.
-/

namespace DutyRelay

namespace Calendar

variable {calendar : Calendar} {epoch : Epoch} {slots : Nat}

/-! ## Clamped once -/

/-- **Where an epoch starts**: at the exact time, counted in whole seconds for each slot, or at the largest word. -/
theorem startTime_eq_clamp (calendar : Calendar) (epoch : Epoch) (slots : Nat) :
    calendar.startTime epoch slots =
      Word.clamp (calendar.genesisTime + epoch * slots * calendar.slotDuration.seconds) := by
  have hproduct : epoch * (calendar.slotDuration.seconds * slots) =
      epoch * slots * calendar.slotDuration.seconds := by
    rw [Nat.mul_comm calendar.slotDuration.seconds, Nat.mul_assoc]
  calc calendar.startTime epoch slots
    _ = Word.clamp (calendar.genesisTime +
          Word.clamp (epoch * Word.clamp (calendar.slotDuration.seconds * slots))) := rfl
    _ = Word.clamp (calendar.genesisTime + epoch * (calendar.slotDuration.seconds * slots)) := by
      rw [Word.clamp_mul_clamp, Word.clamp_add_clamp]
    _ = Word.clamp (calendar.genesisTime + epoch * slots * calendar.slotDuration.seconds) := by
      rw [hproduct]

/-- **Clamping at every step is clamping once.** With slots of a whole number of seconds, the start of an epoch, and
so the one that goes with its payload, is the exact time or the largest word, whichever is less. -/
theorem startTime_clamped_once (genesisTime seconds : Nat) :
    (∀ epoch slots, (Calendar.mk genesisTime (Span.ofSeconds seconds)).startTime epoch slots =
      min (2 ^ 64 - 1) (genesisTime + epoch * slots * seconds)) ∧
    ∀ schedule, ((Calendar.mk genesisTime (Span.ofSeconds seconds)).payload schedule).start =
      min (2 ^ 64 - 1) (genesisTime + schedule.epoch * schedule.length.slots * seconds) := by
  have hstart : ∀ epoch slots, (Calendar.mk genesisTime (Span.ofSeconds seconds)).startTime epoch slots =
      min (2 ^ 64 - 1) (genesisTime + epoch * slots * seconds) := by
    intro epoch slots
    rw [startTime_eq_clamp, Span.seconds_ofSeconds]
    exact Nat.min_comm _ _
  exact ⟨hstart, fun schedule => hstart schedule.epoch schedule.length.slots⟩

/-! ## Later epochs -/

/-- A later epoch starts later, as long as it starts before the largest word. -/
def Advances (calendar : Calendar) (slots : Nat) : Prop :=
  ∀ epoch later, epoch < later → calendar.startTime later slots < Word.top →
    calendar.startTime epoch slots < calendar.startTime later slots

/-- With a whole second for every slot, each epoch takes time. Below the largest word nothing is clamped, so the times
compare as the exact ones do. -/
theorem advances_of_seconds (hslots : 0 < slots) (hseconds : 0 < calendar.slotDuration.seconds) :
    calendar.Advances slots := by
  intro epoch later hlater hbelow
  have hexact : epoch * slots * calendar.slotDuration.seconds < later * slots * calendar.slotDuration.seconds :=
    Nat.mul_lt_mul_of_pos_right (Nat.mul_lt_mul_of_pos_right hlater hslots) hseconds
  rw [startTime_eq_clamp] at hbelow
  rw [startTime_eq_clamp, startTime_eq_clamp]
  exact Word.clamp_lt_clamp (Nat.add_lt_add_left hexact _) hbelow

/-- With slots shorter than a second, every epoch starts when the first one does. -/
theorem startTime_of_brief (hbrief : calendar.slotDuration.seconds = 0) (epoch : Epoch) (slots : Nat) :
    calendar.startTime epoch slots = Word.clamp calendar.genesisTime := by
  rw [startTime_eq_clamp, hbrief, Nat.mul_zero, Nat.add_zero]

/-- There is a whole second in a slot, or the first epoch already starts at the largest word. -/
def HasSeconds (calendar : Calendar) : Prop :=
  (Span.ofSeconds 1).nanos ≤ calendar.slotDuration.nanos ∨ Word.top ≤ calendar.genesisTime

instance : Decidable calendar.HasSeconds := inferInstanceAs (Decidable (_ ∨ _))

theorem seconds_pos_iff {span : Span} : 0 < span.seconds ↔ (Span.ofSeconds 1).nanos ≤ span.nanos := by
  show 0 < span.nanos / 1000000000 ↔ 1 * 1000000000 ≤ span.nanos
  omega

theorem advances_of_hasSeconds (hslots : 0 < slots) (h : calendar.HasSeconds) : calendar.Advances slots := by
  rcases h with hlong | hgenesis
  · exact advances_of_seconds hslots (seconds_pos_iff.mpr hlong)
  · -- No epoch starts before the largest word, so there is nothing to compare.
    intro epoch later _ hbelow
    simp only [startTime_eq_clamp, Word.clamp] at hbelow
    omega

/-- Without a whole second in a slot all epochs start at the genesis time, which is below the largest word. -/
theorem startTime_of_not_hasSeconds (h : ¬ calendar.HasSeconds) (epoch : Epoch) (slots : Nat) :
    calendar.startTime epoch slots = calendar.genesisTime ∧ calendar.genesisTime < Word.top := by
  obtain ⟨hbrief, hgenesis⟩ := not_or.mp h
  have hseconds : calendar.slotDuration.seconds = 0 := by
    have hnone : ¬ 0 < calendar.slotDuration.seconds := fun hpos => hbrief (seconds_pos_iff.mp hpos)
    omega
  have hlt : calendar.genesisTime < Word.top := Nat.lt_of_not_le hgenesis
  exact ⟨(startTime_of_brief hseconds epoch slots).trans (Word.clamp_eq_self (Nat.le_of_lt hlt)), hlt⟩

/-- **When later epochs start later.** -/
theorem advances_iff (hslots : 0 < slots) : calendar.Advances slots ↔ calendar.HasSeconds := by
  constructor
  · intro hadvances
    apply Decidable.byContradiction
    intro hnone
    obtain ⟨hfirst, hgenesis⟩ := startTime_of_not_hasSeconds hnone 0 slots
    obtain ⟨hsecond, _⟩ := startTime_of_not_hasSeconds hnone 1 slots
    have hlt := hadvances 0 1 (by decide) (hsecond ▸ hgenesis)
    rw [hfirst, hsecond] at hlt
    exact Nat.lt_irrefl _ hlt
  · exact advances_of_hasSeconds hslots

end Calendar

namespace Relay

variable {relay : Relay} {state : State} {turns : List Turn} {epoch : Epoch} {p : Payload}
  {current next : Schedule}

/-! ## The payloads of a run -/

/-- The payloads that were handed over in a run, whether or not their refresh was completed. -/
def published (turns : List Turn) : List Payload := turns.flatMap Turn.payloads

/-- What is published in a coherent state is about epochs of the relay's length. -/
theorem Prepared.lengths {talk : List (Exchange Nodes)} (h : relay.Prepared state epoch talk current next)
    (hstate : state.Coherent relay.length) :
    current.length = relay.length ∧ next.length = relay.length := by
  have hlength : ∀ {epoch assignments schedule},
      Schedule.build relay.length epoch assignments = .ok schedule → schedule.length = relay.length := by
    intro _ _ _ hbuild
    obtain ⟨_, _, hlength, _⟩ := Schedule.eq_of_build hbuild
    exact hlength
  constructor
  · rcases h.current with hstaged | ⟨_, _, _, hbuild⟩
    · obtain ⟨_, hbuild⟩ := hstate.isOf_of_staged hstaged
      exact hlength hbuild
    · exact hlength hbuild
  · obtain ⟨_, _, hbuild⟩ := h.upcoming
    exact hlength hbuild

/-- **The start in a payload is that of its epoch**, by the calendar and the epoch length of the relay. -/
theorem start_of_published (hrun : relay.Run State.start turns state) (hp : p ∈ published turns) :
    p.start = relay.calendar.startTime p.epoch relay.length.slots := by
  obtain ⟨turn, hturn, hp⟩ := List.mem_flatMap.mp hp
  obtain ⟨head, current, next, _, _, hprepared, hbegins⟩ :=
    published_of_tick (hrun.tick_of_mem hturn) (List.ne_nil_of_mem hp)
  obtain ⟨hcurrent, hnext⟩ := hprepared.lengths (hrun.coherent_of_mem hturn)
  have hstart : ∀ schedule : Schedule, schedule.length = relay.length →
      (relay.calendar.payload schedule).start =
        relay.calendar.startTime (relay.calendar.payload schedule).epoch relay.length.slots := by
    intro schedule hlength
    rw [← hlength]
    rfl
  rcases List.mem_append.mp (hbegins.subset hp) with hearlier | hlast
  · -- The current epoch is published at the first refresh only.
    have hpayload : p = relay.calendar.payload current := by
      cases hfirst : turn.before.progress.firstRun with
      | false => simp [hfirst] at hearlier
      | true => simpa [hfirst] using hearlier
    rw [hpayload]
    exact hstart current hcurrent
  · obtain rfl := List.mem_singleton.mp hlast
    exact hstart next hnext

/-- Nodes that know of no proposer have the first two epochs published in the first tick. -/
theorem exists_published (relay : Relay) :
    ∃ turns state, relay.Run State.start turns state ∧
      (∃ p ∈ published turns, p.epoch = 0) ∧ ∃ q ∈ published turns, q.epoch = 1 := by
  have hdue : State.start.progress.transition relay.length 0 = .due 0 true :=
    Progress.transition_eq_due_iff.mpr ⟨(Nat.zero_div _).symm, rfl, Or.inl rfl⟩
  have hfault : Step.firstFault (relay.refreshSteps State.start.window 0 true quietReplies) = none :=
    clean_iff.mpr ⟨⟨[], rfl, rfl⟩, fun _ => ⟨[], rfl, rfl, nofun⟩, fun _ => ⟨true, rfl⟩, ⟨true, rfl⟩⟩
  obtain ⟨current, next, _, hcurrent, hnext, hpayloads⟩ :=
    @payloads_of_committed relay 0 true quietReplies State.start 0 hfault
  have htick := tick_leads_iff.mpr ⟨quietReplies, .committed rfl hdue hfault⟩
  refine ⟨_, _, Run.single htick, ⟨relay.calendar.payload current, ?_, hcurrent⟩,
    relay.calendar.payload next, ?_, hnext⟩
  all_goals
    rw [published, List.flatMap_singleton]
    show _ ∈ (calls _).map Call.payload
    rw [hpayloads]
    simp

/-! ## Telling epochs apart -/

/-- In no run are two different epochs published with one start, unless it is the largest word. -/
def StartsApart (relay : Relay) : Prop :=
  ∀ turns state, relay.Run State.start turns state → ∀ p ∈ published turns, ∀ q ∈ published turns,
    p.epoch ≠ q.epoch → p.start < Word.top → q.start < Word.top → p.start ≠ q.start

/-- **When the starts tell epochs apart.** -/
theorem startsApart_iff : relay.StartsApart ↔ relay.calendar.HasSeconds := by
  constructor
  · intro hapart
    apply Decidable.byContradiction
    intro hnone
    obtain ⟨turns, state, hrun, ⟨p, hp, hpepoch⟩, q, hq, hqepoch⟩ := relay.exists_published
    have hstart : ∀ p ∈ published turns, p.start = relay.calendar.genesisTime ∧ p.start < Word.top := by
      intro p hp
      obtain ⟨hgenesis, hlt⟩ := Calendar.startTime_of_not_hasSeconds hnone p.epoch relay.length.slots
      rw [start_of_published hrun hp, hgenesis]
      exact ⟨rfl, hlt⟩
    have hne : p.epoch ≠ q.epoch := by rw [hpepoch, hqepoch]; decide
    exact hapart turns state hrun p hp q hq hne (hstart p hp).2 (hstart q hq).2
      ((hstart p hp).1.trans (hstart q hq).1.symm)
  · intro hseconds turns state hrun p hp q hq hne hpbelow hqbelow
    have hadvances := Calendar.advances_of_hasSeconds relay.length.slots_pos hseconds
    rw [start_of_published hrun hp] at hpbelow ⊢
    rw [start_of_published hrun hq] at hqbelow ⊢
    rcases Nat.lt_or_gt_of_ne hne with hlt | hgt
    · exact Nat.ne_of_lt (hadvances _ _ hlt hqbelow)
    · exact Nat.ne_of_gt (hadvances _ _ hgt hpbelow)

/-- A relay counts time as its configuration says. -/
theorem calendar_of_ofConfig {config : Config} (h : Relay.ofConfig config = .ok relay) :
    relay.calendar = ⟨config.genesisTime, config.slotDuration⟩ := by
  unfold Relay.ofConfig at h
  split at h
  · cases h
  · cases h
    rfl

/-- **Which configurations make later epochs start later.** A configuration that passes its check makes a relay. With
this relay later epochs start later, and payloads of different epochs have different starts, exactly if a slot lasts
at least one second (or the genesis time is the largest word already). Otherwise every epoch starts at the genesis
time. -/
theorem starts_advance_iff {config : Config} (h : config.check = .ok ()) :
    ∃ relay, Relay.ofConfig config = .ok relay ∧
      (relay.calendar.Advances config.slotsPerEpoch ↔
        (Span.ofSeconds 1).nanos ≤ config.slotDuration.nanos ∨ Word.top ≤ config.genesisTime) ∧
      (relay.StartsApart ↔
        (Span.ofSeconds 1).nanos ≤ config.slotDuration.nanos ∨ Word.top ≤ config.genesisTime) ∧
      (¬ relay.StartsApart →
        ∀ epoch, relay.calendar.startTime epoch config.slotsPerEpoch = config.genesisTime) := by
  obtain ⟨relay, hrelay, _⟩ := length_of_ofConfig h
  have hcalendar := calendar_of_ofConfig hrelay
  have hseconds : relay.calendar.HasSeconds ↔
      (Span.ofSeconds 1).nanos ≤ config.slotDuration.nanos ∨ Word.top ≤ config.genesisTime := by
    rw [hcalendar]
    exact Iff.rfl
  refine ⟨relay, hrelay, ?_, ?_, ?_⟩
  · exact (Calendar.advances_iff (Config.slots_pos_of_check h)).trans hseconds
  · exact startsApart_iff.trans hseconds
  · intro hsame epoch
    have hnone : ¬ relay.calendar.HasSeconds := fun hlong => hsame (startsApart_iff.mpr hlong)
    rw [(Calendar.startTime_of_not_hasSeconds hnone epoch config.slotsPerEpoch).1, hcalendar]

/-- A chain with four slots to an epoch. -/
def slotted (slotDuration : Span) : Config :=
  { Config.standard 1000 with slotsPerEpoch := 4, slotDuration }

/-- Slots of exactly one second are long enough. -/
theorem starts_advance_second :
    (slotted (Span.ofSeconds 1)).check = .ok () ∧
      ∃ relay, Relay.ofConfig (slotted (Span.ofSeconds 1)) = .ok relay ∧
        relay.calendar.Advances 4 ∧ relay.StartsApart := by
  obtain ⟨relay, hrelay, hadvances, hapart, _⟩ := @starts_advance_iff (slotted (Span.ofSeconds 1)) rfl
  exact ⟨rfl, relay, hrelay, hadvances.mpr (Or.inl (by decide)), hapart.mpr (Or.inl (by decide))⟩

/-- **Starts that stand still.** With slots of half a second an epoch takes two seconds, and the configuration passes
its check. But all epochs start at the genesis time, and so a run may publish two of them with one start. -/
theorem starts_stand_still :
    (slotted ⟨500000000⟩).check = .ok () ∧ ∃ relay, Relay.ofConfig (slotted ⟨500000000⟩) = .ok relay ∧
      relay.calendar.startTime 2 4 = 1000 ∧ relay.calendar.startTime 3 4 = 1000 ∧
      ¬ relay.calendar.Advances 4 ∧ ¬ relay.StartsApart := by
  have hcheck : (slotted ⟨500000000⟩).check = .ok () := rfl
  obtain ⟨relay, hrelay, _⟩ := length_of_ofConfig hcheck
  have hcalendar : relay.calendar = ⟨1000, ⟨500000000⟩⟩ := calendar_of_ofConfig hrelay
  have hnone : ¬ relay.calendar.HasSeconds := by
    rw [hcalendar]
    decide
  refine ⟨hcheck, relay, hrelay, ?_, ?_, ?_, ?_⟩
  · rw [hcalendar]
    decide
  · rw [hcalendar]
    decide
  · exact fun hadvances => hnone ((Calendar.advances_iff (by decide)).mp hadvances)
  · exact fun hapart => hnone (startsApart_iff.mp hapart)

end Relay
end DutyRelay
