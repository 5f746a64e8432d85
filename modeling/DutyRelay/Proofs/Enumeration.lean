import DutyRelay.Proofs.Roster

/-!
# The table on words

A schedule can be gone through, cell by cell, and it can be asked about a slot. Both count from the first slot of
the epoch, which as a word stops at the largest one: the first adds the offset of a cell to it, the second takes
it away from the slot. The last epoch that begins at a word may end beyond the words, and the epochs behind it lie
beyond them altogether. Even so the two agree on every slot that is a word, and no sum ever exceeds the words,
since a cell is only filled for a slot that somebody lists.

## Contents
- `EpochLength.startSlot_eq_top`, `epochOf_ne_of_beyond`: epochs beyond the words.
- `EpochLength.sub_startSlot`: the offset of a slot is its distance from the first slot as a word.
- `Schedule.enumerated`, `enumerated_eq`: the cells, counted on words.
- `Schedule.indexed?`, `indexed?_eq`: the cell of a slot, found on words.
- `proposers_iff_proposer?`: going through a schedule and asking it come to the same.
- `lastEpoch`: duties for the two slots of the last epoch that are words.
-/

namespace DutyRelay

/-! ## Epochs at the end of the words -/

namespace EpochLength

variable {length : EpochLength} {epoch : Epoch} {slot : Slot}

/-- An epoch beyond the words is said to start at the largest word, -/
theorem startSlot_eq_top (h : Word.top < length.firstSlot epoch) :
    length.startSlot epoch = Word.top :=
  Nat.min_eq_right (Nat.le_of_lt h)

/-- and no word is a slot of it. -/
theorem epochOf_ne_of_beyond (h : Word.top < length.firstSlot epoch) (hslot : slot ≤ Word.top) :
    length.epochOf slot ≠ epoch := by
  rintro rfl
  have hfirst := Nat.le.intro (length.firstSlot_add_offsetOf slot)
  exact absurd (Nat.le_trans hfirst hslot) (Nat.not_le_of_lt h)

/-- The offset of a slot is its distance from the first slot as a word. -/
theorem sub_startSlot (hslot : slot ≤ Word.top) (hepoch : length.epochOf slot = epoch) :
    slot - length.startSlot epoch = length.offsetOf slot := by
  rw [startSlot_eq_firstSlot hslot hepoch, ← hepoch]
  exact Nat.sub_eq_of_eq_add' (length.firstSlot_add_offsetOf slot).symm

end EpochLength

namespace Schedule

variable {length : EpochLength} {epoch : Epoch} {slot : Slot} {assignments : List Assignment}
  {schedule : Schedule}

/-! ## Going through the table -/

/-- The assigned slots with their proposers, counted from the first slot as a word. -/
def enumerated (schedule : Schedule) : List Claim :=
  schedule.table.toList.zipIdx.filterMap fun (proposer, offset) =>
    proposer.map fun validator => ⟨schedule.startSlot + offset, validator⟩

/-- An assigned slot is listed, so it is a word if those are. -/
theorem le_top_of_mem_proposers (h : build length epoch assignments = .ok schedule)
    (hwords : ∀ slot ∈ listedSlots assignments, slot ≤ Word.top) {claim : Claim}
    (hclaim : claim ∈ schedule.proposers) : claim.slot ≤ Word.top := by
  have hproposer := mem_proposers.mp hclaim
  exact hwords _ (((records_of_build h).assigned _).mp (Option.isSome_iff_exists.mpr ⟨_, hproposer⟩))

/-- An epoch with an assigned slot starts at a word. -/
theorem startSlot_of_mem_proposers (h : build length epoch assignments = .ok schedule)
    (hwords : ∀ slot ∈ listedSlots assignments, slot ≤ Word.top) {claim : Claim}
    (hclaim : claim ∈ schedule.proposers) :
    schedule.startSlot = schedule.length.firstSlot schedule.epoch :=
  EpochLength.startSlot_eq_firstSlot (le_top_of_mem_proposers h hwords hclaim)
    (epochOf_of_proposer? (Option.isSome_iff_exists.mpr ⟨_, mem_proposers.mp hclaim⟩))

/-- **Counting on words comes to the same slots.** Either some cell is filled, and the epoch starts at a word, or
there is nothing to count. -/
theorem enumerated_eq (h : build length epoch assignments = .ok schedule)
    (hwords : ∀ slot ∈ listedSlots assignments, slot ≤ Word.top) :
    schedule.enumerated = schedule.proposers := by
  apply List.filterMap_congr
  rintro ⟨proposer, offset⟩ hcell
  cases proposer with
  | none => rfl
  | some validator =>
    have hclaim : (⟨schedule.length.firstSlot schedule.epoch + offset, validator⟩ : Claim) ∈
        schedule.proposers := List.mem_filterMap.mpr ⟨_, hcell, rfl⟩
    rw [startSlot_of_mem_proposers h hwords hclaim]

/-! ## Asking about a slot -/

/-- The proposer of a slot, in the cell as far into the table as the slot is from the first one as a word. -/
def indexed? (schedule : Schedule) (slot : Slot) : Option ValidatorIndex :=
  if schedule.containsSlot slot then (schedule.table[slot - schedule.startSlot]?).join else none

theorem indexed?_eq (schedule : Schedule) (hslot : slot ≤ Word.top) :
    schedule.indexed? slot = schedule.proposer? slot := by
  unfold indexed? proposer?
  by_cases hinside : schedule.containsSlot slot = true
  · rw [if_pos hinside, if_pos hinside, startSlot,
      EpochLength.sub_startSlot hslot (of_decide_eq_true hinside)]
  · rw [if_neg hinside, if_neg hinside]

theorem proposer?_of_outside (h : schedule.length.epochOf slot ≠ schedule.epoch) :
    schedule.proposer? slot = none := by
  by_contra hsome
  exact h (epochOf_of_proposer? (Option.isSome_iff_ne_none.mpr hsome))

/-- **Going through a schedule and asking it come to the same.** The proposers of a built schedule are listed by
slot, all of it inside the epoch; a slot is listed with a validator exactly if the validator is the answer for it,
as many slots as are counted, and there is no answer for a slot outside the epoch. All this is so as well when the
slots are counted on words: the list is the same, no slot in it exceeds the words, and the answers are the same for
every slot that is a word. If the epoch lies beyond the words, there is nothing to list. -/
theorem proposers_iff_proposer? (h : build length epoch assignments = .ok schedule) :
    (schedule.proposers.map Claim.slot).Pairwise (· < ·) ∧
    (∀ claim ∈ schedule.proposers, schedule.containsSlot claim.slot = true) ∧
    (∀ slot validator, (⟨slot, validator⟩ : Claim) ∈ schedule.proposers ↔
      schedule.proposer? slot = some validator) ∧
    schedule.proposers.length = schedule.assignedSlots ∧
    (∀ slot, length.epochOf slot ≠ epoch → schedule.proposer? slot = none) ∧
    ((∀ slot ∈ listedSlots assignments, slot ≤ Word.top) →
      schedule.enumerated = schedule.proposers ∧
      (∀ claim ∈ schedule.enumerated, claim.slot ≤ Word.top) ∧
      (∀ slot ≤ Word.top, schedule.indexed? slot = schedule.proposer? slot) ∧
      (Word.top < length.firstSlot epoch →
        schedule.startSlot = Word.top ∧ schedule.proposers = [])) := by
  obtain ⟨_, rfl, rfl, _, _, _⟩ := eq_of_build h
  refine ⟨?_, ?_, fun slot validator => mem_proposers, ?_, fun slot => proposer?_of_outside, ?_⟩
  · rw [map_slot_proposers]
    exact schedule.assigned_increasing
  · intro claim hclaim
    exact decide_eq_true
      (epochOf_of_proposer? (Option.isSome_iff_exists.mpr ⟨_, mem_proposers.mp hclaim⟩))
  · rw [assignedSlots_eq, ← map_slot_proposers, List.length_map]
  · intro hwords
    have hle : ∀ claim ∈ schedule.proposers, claim.slot ≤ Word.top :=
      fun claim => le_top_of_mem_proposers h hwords
    refine ⟨enumerated_eq h hwords, ?_, fun slot => schedule.indexed?_eq, fun hbeyond => ⟨?_, ?_⟩⟩
    · rw [enumerated_eq h hwords]
      exact hle
    · exact EpochLength.startSlot_eq_top hbeyond
    · apply List.eq_nil_iff_forall_not_mem.mpr
      intro claim hclaim
      exact EpochLength.epochOf_ne_of_beyond hbeyond (hle claim hclaim)
        (epochOf_of_proposer? (Option.isSome_iff_exists.mpr ⟨_, mem_proposers.mp hclaim⟩))

/-- Duties for the last two words, which are the first two of the seven slots of their epoch. -/
def lastEpoch : List Assignment := [⟨1, ⟨[0xaa]⟩, [Word.top]⟩, ⟨2, ⟨[0xbb]⟩, [Word.top - 1]⟩]

/-- The last epoch is gone through on words although it ends beyond them, and the one behind it is empty. -/
theorem lastEpoch_enumerated :
    ∃ schedule beyond, build ⟨7, by decide⟩ (Word.top / 7) lastEpoch = .ok schedule ∧
      build ⟨7, by decide⟩ (Word.top / 7 + 1) [⟨3, ⟨[0xcc]⟩, []⟩] = .ok beyond ∧
      schedule.enumerated = [⟨Word.top - 1, 2⟩, ⟨Word.top, 1⟩] ∧ schedule.assignedSlots = 2 ∧
      schedule.indexed? Word.top = some 1 ∧
      beyond.startSlot = Word.top ∧ beyond.enumerated = [] ∧ beyond.indexed? Word.top = none := by
  obtain ⟨schedule, hbuild, hlist⟩ :
      ∃ schedule, build ⟨7, by decide⟩ (Word.top / 7) lastEpoch = .ok schedule ∧
        schedule.proposers = [⟨Word.top - 1, 2⟩, ⟨Word.top, 1⟩] := ⟨_, rfl, rfl⟩
  obtain ⟨beyond, hbeyond⟩ :
      ∃ beyond, build ⟨7, by decide⟩ (Word.top / 7 + 1) [⟨3, ⟨[0xcc]⟩, []⟩] = .ok beyond := ⟨_, rfl⟩
  obtain ⟨_, _, hanswer, hcount, _, hwords⟩ := proposers_iff_proposer? hbuild
  obtain ⟨hsame, _, hasked, _⟩ := hwords (by decide)
  obtain ⟨_, _, _, _, houtside, hwords'⟩ := proposers_iff_proposer? hbeyond
  obtain ⟨hsame', _, hasked', hempty⟩ := hwords' (by decide)
  obtain ⟨hstart, hnone⟩ := hempty (by decide)
  refine ⟨schedule, beyond, hbuild, hbeyond, hsame.trans hlist, ?_, ?_, hstart, hsame'.trans hnone, ?_⟩
  · rw [← hcount, hlist]
    rfl
  · rw [hasked _ (Nat.le_refl _), ← hanswer, hlist]
    decide
  · rw [hasked' _ (Nat.le_refl _), houtside _ (by decide)]

end Schedule
end DutyRelay
