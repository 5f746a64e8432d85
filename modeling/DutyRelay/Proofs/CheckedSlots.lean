import DutyRelay.Proofs.Enumeration

/-!
# Slots in checked arithmetic

On words a difference may fall below zero, a sum may exceed the largest word, and a product that would exceed it is
cut off there; a table has no cells beyond its size. Here a schedule is built, asked and gone through with every such
step checked: a step that goes wrong leaves nothing. None of them ever does, however close to the end of the words the
epoch lies. A slot is only looked for in the table of its own epoch, and an epoch that contains a word starts at a
word; a sum is only formed for a cell that is filled, and a cell is only filled for a slot that somebody lists.

## Contents
- `Word.sub?`, `Word.add?`: checked steps on words.
- `EpochLength.IsIndexed`, `isIndexed_of_epochOf`: the place of a slot in the table of its epoch.
- `Schedule.enter?`, `Schedule.enterAll?`, `enter?_eq`, `enterAll?_eq`: one claim, and claims one after another.
- `Schedule.ask?`, `ask?_eq`: the proposer of a slot.
- `Schedule.filled`, `Schedule.list?`, `list?_eq`: all proposers.
- `slots_within_words`: all of this together.
-/

namespace DutyRelay

/-! ## Checked steps -/

namespace Word

variable {a b : Nat}

/-- The difference of two words; none if it is below zero. -/
def sub? (a b : Nat) : Option Nat := if b ≤ a then some (a - b) else none

/-- The sum of two words; none if it is beyond the largest word. -/
def add? (a b : Nat) : Option Nat := if a + b ≤ top then some (a + b) else none

theorem sub?_eq_some (h : b ≤ a) : sub? a b = some (a - b) := if_pos h

theorem add?_eq_some (h : a + b ≤ top) : add? a b = some (a + b) := if_pos h

end Word

/-! ## The place of a slot -/

namespace EpochLength

variable {length : EpochLength} {epoch : Epoch} {slot : Slot}

/-- The table of an epoch has a cell for the slot, as far from the first one as the slot is from the start of the
epoch: the start has not been cut off, and the slot is neither before it nor beyond the table. -/
structure IsIndexed (length : EpochLength) (epoch : Epoch) (slot : Slot) : Prop where
  start_eq : length.startSlot epoch = epoch * length.slots
  start_le : length.startSlot epoch ≤ slot
  offset_lt : slot - length.startSlot epoch < length.slots

/-- **A slot has a cell in the table of its epoch.** -/
theorem isIndexed_of_epochOf (hslot : slot ≤ Word.top) (hepoch : length.epochOf slot = epoch) :
    length.IsIndexed epoch slot := by
  have hstart := startSlot_eq_firstSlot hslot hepoch
  have hsum := length.firstSlot_add_offsetOf slot
  rw [hepoch] at hsum
  constructor
  · exact hstart
  · rw [hstart]
    exact Nat.le.intro hsum
  · rw [sub_startSlot hslot hepoch]
    exact length.offsetOf_lt slot

end EpochLength

namespace Schedule

variable {length : EpochLength} {epoch : Epoch} {slot : Slot} {table : SlotTable} {claim : Claim}
  {claims : List Claim} {assignments : List Assignment} {schedule : Schedule}

/-! ## Entering claims -/

/-- Writes a validator into a cell; none if the table has no such cell. -/
def write? (table : SlotTable) (offset : Nat) (validator : ValidatorIndex) : Option SlotTable :=
  if h : offset < table.size then some (table.set offset (some validator) h) else none

/-- Enters one claim. -/
def enter? (length : EpochLength) (epoch : Epoch) (table : SlotTable) (claim : Claim) : Option SlotTable := do
  let offset ← Word.sub? claim.slot (length.startSlot epoch)
  write? table offset claim.validator

/-- Enters claims one after another, up to the first one outside of the epoch. -/
def enterAll? (length : EpochLength) (epoch : Epoch) : SlotTable → List Claim → Option (Outcome SlotTable)
  | table, [] => some (.ok table)
  | table, claim :: rest =>
    if length.epochOf claim.slot = epoch then do
      enterAll? length epoch (← enter? length epoch table claim) rest
    else some (.error (.slotOutsideEpoch claim.slot epoch))

/-- One claim is entered where the unchecked table has it. -/
theorem enter?_eq (hsize : table.size = length.slots) (hslot : claim.slot ≤ Word.top)
    (hepoch : length.epochOf claim.slot = epoch) :
    enter? length epoch table claim = some (enter length table claim) := by
  have hindexed := EpochLength.isIndexed_of_epochOf hslot hepoch
  have hlt : claim.slot - length.startSlot epoch < table.size := hsize ▸ hindexed.offset_lt
  unfold enter? write?
  rw [Word.sub?_eq_some hindexed.start_le, Option.bind_eq_bind, Option.bind_some, dif_pos hlt]
  unfold enter
  rw [← EpochLength.sub_startSlot hslot hepoch, Array.setIfInBounds_def, dif_pos hlt]

/-- **Claims are entered without a step that goes wrong.** The first claim outside of the epoch ends the matter, and
otherwise all of them are in the table. -/
theorem enterAll?_eq (hsize : table.size = length.slots) (hwords : ∀ claim ∈ claims, claim.slot ≤ Word.top) :
    enterAll? length epoch table claims =
      some (match claims.find? fun claim => length.epochOf claim.slot ≠ epoch with
        | some claim => .error (.slotOutsideEpoch claim.slot epoch)
        | none => .ok (claims.foldl (enter length) table)) := by
  induction claims generalizing table with
  | nil => rfl
  | cons claim rest ih =>
    obtain ⟨hfirst, hrest⟩ := List.forall_mem_cons.mp hwords
    unfold enterAll?
    by_cases hepoch : length.epochOf claim.slot = epoch
    · have hfind : (claim :: rest).find? (fun claim => length.epochOf claim.slot ≠ epoch) =
          rest.find? fun claim => length.epochOf claim.slot ≠ epoch :=
        List.find?_cons_of_neg (by simp [hepoch])
      rw [if_pos hepoch, enter?_eq hsize hfirst hepoch, hfind, List.foldl_cons]
      exact ih ((size_enter length table claim).trans hsize) hrest
    · have hfind : (claim :: rest).find? (fun claim => length.epochOf claim.slot ≠ epoch) = some claim :=
        List.find?_cons_of_pos (by simp [hepoch])
      rw [if_neg hepoch, hfind]

/-- Building a schedule comes to entering its claims into a table without proposers. -/
theorem enterAll?_claimsOf (hwords : ∀ slot ∈ listedSlots assignments, slot ≤ Word.top) :
    enterAll? length epoch (blank length) (claimsOf assignments) =
      some ((build length epoch assignments).map Schedule.table) := by
  have hclaims : ∀ claim ∈ claimsOf assignments, claim.slot ≤ Word.top := by
    intro claim hclaim
    apply hwords
    rw [← map_slot_claimsOf]
    exact List.mem_map_of_mem hclaim
  have hsize : (blank length).size = length.slots := Array.size_replicate
  rw [enterAll?_eq hsize hclaims]
  unfold build stray?
  cases (claimsOf assignments).find? fun claim => length.epochOf claim.slot ≠ epoch with
  | some claim => rfl
  | none => rfl

/-! ## Asking about a slot -/

/-- The proposer of a slot, in the cell at its place; none if there is no such cell. -/
def ask? (schedule : Schedule) (slot : Slot) : Option (Option ValidatorIndex) :=
  if schedule.containsSlot slot then do
    let offset ← Word.sub? slot schedule.startSlot
    schedule.table[offset]?
  else some none

/-- **There is a cell for every slot that is looked for.** -/
theorem ask?_eq (schedule : Schedule) (hslot : slot ≤ Word.top) :
    schedule.ask? slot = some (schedule.proposer? slot) := by
  unfold ask? proposer?
  by_cases hinside : schedule.containsSlot slot = true
  · have hepoch : schedule.length.epochOf slot = schedule.epoch := of_decide_eq_true hinside
    have hindexed := EpochLength.isIndexed_of_epochOf hslot hepoch
    have hlt : schedule.length.offsetOf slot < schedule.table.size := by
      rw [schedule.table_size]
      exact schedule.length.offsetOf_lt slot
    have hdifference : Word.sub? slot schedule.startSlot = some (schedule.length.offsetOf slot) := by
      rw [← EpochLength.sub_startSlot hslot hepoch]
      exact Word.sub?_eq_some hindexed.start_le
    rw [if_pos hinside, if_pos hinside, hdifference]
    simp [hlt]
  · rw [if_neg hinside, if_neg hinside]

/-! ## Going through the table -/

/-- The cells that hold a proposer, with how far they are from the first one. -/
def filled (schedule : Schedule) : List (Nat × ValidatorIndex) :=
  schedule.table.toList.zipIdx.filterMap fun (proposer, offset) => proposer.map (offset, ·)

/-- The assigned slots with their proposers; none if one of the slots would not be a word. -/
def list? (schedule : Schedule) : Option (List Claim) :=
  schedule.filled.mapM fun (offset, validator) => do
    let slot ← Word.add? schedule.startSlot offset
    return ⟨slot, validator⟩

theorem map_filled (schedule : Schedule) :
    (schedule.filled.map fun (offset, validator) => (⟨schedule.startSlot + offset, validator⟩ : Claim)) =
      schedule.enumerated := by
  unfold filled enumerated
  rw [List.map_filterMap]
  apply List.filterMap_congr
  rintro ⟨proposer, offset⟩ _
  cases proposer <;> rfl

/-- A filled cell belongs to a slot that is listed, so that slot is a word. -/
theorem add_le_top_of_mem_filled (h : build length epoch assignments = .ok schedule)
    (hwords : ∀ slot ∈ listedSlots assignments, slot ≤ Word.top) {offset : Nat} {validator : ValidatorIndex}
    (hcell : (offset, validator) ∈ schedule.filled) : schedule.startSlot + offset ≤ Word.top := by
  have hclaim : (⟨schedule.startSlot + offset, validator⟩ : Claim) ∈ schedule.proposers := by
    rw [← enumerated_eq h hwords, ← map_filled]
    exact List.mem_map_of_mem hcell
  exact le_top_of_mem_proposers h hwords hclaim

/-- Where every step succeeds, all of them do. -/
theorem mapM_eq_some_map {α β : Type} {f : α → Option β} {g : α → β} {entries : List α}
    (h : ∀ entry ∈ entries, f entry = some (g entry)) : entries.mapM f = some (entries.map g) := by
  induction entries with
  | nil => rfl
  | cons entry rest ih =>
    obtain ⟨hfirst, hrest⟩ := List.forall_mem_cons.mp h
    rw [List.mapM_cons, hfirst, ih hrest]
    rfl

/-- **No sum exceeds the words.** -/
theorem list?_eq (h : build length epoch assignments = .ok schedule)
    (hwords : ∀ slot ∈ listedSlots assignments, slot ≤ Word.top) :
    schedule.list? = some schedule.proposers := by
  rw [← enumerated_eq h hwords, ← map_filled]
  apply mapM_eq_some_map
  rintro ⟨offset, validator⟩ hcell
  simp only [Word.add?_eq_some (add_le_top_of_mem_filled h hwords hcell)]
  rfl

/-- In an epoch beyond the words no cell is filled. -/
theorem filled_eq_nil_of_beyond (h : build length epoch assignments = .ok schedule)
    (hwords : ∀ slot ∈ listedSlots assignments, slot ≤ Word.top) (hbeyond : Word.top < length.firstSlot epoch) :
    schedule.filled = [] := by
  obtain ⟨_, rfl, rfl, _, _, _⟩ := eq_of_build h
  have hproposers : schedule.proposers = [] := by
    apply List.eq_nil_iff_forall_not_mem.mpr
    intro claim hclaim
    have hproposer := mem_proposers.mp hclaim
    exact EpochLength.epochOf_ne_of_beyond hbeyond (le_top_of_mem_proposers h hwords hclaim)
      (epochOf_of_proposer? (Option.isSome_iff_exists.mpr ⟨_, hproposer⟩))
  rw [← enumerated_eq h hwords, ← map_filled] at hproposers
  exact List.map_eq_nil_iff.mp hproposers

/-! ## All steps -/

/-- **No step on slots goes wrong.** A slot that is a word has a cell in the table of its epoch, and the start of that
epoch has not been cut off. So whatever is listed, a schedule is built, asked about a slot and gone through without a
difference below zero, a sum beyond the words or a cell that is not there, and the checked steps come to the same as
the unchecked ones. Of the epochs behind the last one that starts at a word, the start is cut off, and then no cell is
filled. -/
theorem slots_within_words (length : EpochLength) (epoch : Epoch) :
    (∀ slot ≤ Word.top, length.epochOf slot = epoch → length.IsIndexed epoch slot) ∧
    ∀ assignments, (∀ slot ∈ listedSlots assignments, slot ≤ Word.top) →
      enterAll? length epoch (blank length) (claimsOf assignments) =
        some ((build length epoch assignments).map Schedule.table) ∧
      ∀ schedule, build length epoch assignments = .ok schedule →
        (∀ slot ≤ Word.top, schedule.ask? slot = some (schedule.proposer? slot)) ∧
        (∀ offset validator, (offset, validator) ∈ schedule.filled → schedule.startSlot + offset ≤ Word.top) ∧
        schedule.list? = some schedule.proposers ∧
        (Word.top / length.slots < epoch → schedule.startSlot = Word.top ∧ schedule.filled = []) := by
  refine ⟨fun slot hslot hepoch => EpochLength.isIndexed_of_epochOf hslot hepoch, ?_⟩
  intro assignments hwords
  refine ⟨enterAll?_claimsOf hwords, ?_⟩
  intro schedule h
  refine ⟨fun slot hslot => schedule.ask?_eq hslot, fun _ _ => add_le_top_of_mem_filled h hwords,
    list?_eq h hwords, ?_⟩
  intro hlater
  have hbeyond : Word.top < length.firstSlot epoch := (Nat.div_lt_iff_lt_mul length.slots_pos).mp hlater
  obtain ⟨_, rfl, rfl, _, _, _⟩ := eq_of_build h
  exact ⟨EpochLength.startSlot_eq_top hbeyond, filled_eq_nil_of_beyond h hwords hbeyond⟩

/-- The two slots of the last epoch that are words are entered, asked about and listed; the next slots of that epoch
would not be words. -/
theorem lastEpoch_within_words :
    (∀ slot ∈ listedSlots lastEpoch, slot ≤ Word.top) ∧
    ∃ schedule, build ⟨7, by decide⟩ (Word.top / 7) lastEpoch = .ok schedule ∧
      enterAll? ⟨7, by decide⟩ (Word.top / 7) (blank ⟨7, by decide⟩) (claimsOf lastEpoch) =
        some (.ok schedule.table) ∧
      schedule.ask? Word.top = some (some 1) ∧ schedule.list? = some [⟨Word.top - 1, 2⟩, ⟨Word.top, 1⟩] ∧
      Word.add? schedule.startSlot 2 = none := by
  have hwords : ∀ slot ∈ listedSlots lastEpoch, slot ≤ Word.top := by decide
  obtain ⟨schedule, hbuild, hasked, hlist, hstart⟩ :
      ∃ schedule, build ⟨7, by decide⟩ (Word.top / 7) lastEpoch = .ok schedule ∧
        schedule.proposer? Word.top = some 1 ∧ schedule.proposers = [⟨Word.top - 1, 2⟩, ⟨Word.top, 1⟩] ∧
        Word.add? schedule.startSlot 2 = none := ⟨_, rfl, rfl, rfl, rfl⟩
  obtain ⟨_, hall⟩ := slots_within_words ⟨7, by decide⟩ (Word.top / 7)
  obtain ⟨hentered, hchecked⟩ := hall lastEpoch hwords
  obtain ⟨hask, _, hlist', _⟩ := hchecked schedule hbuild
  refine ⟨hwords, schedule, hbuild, ?_, ?_, hlist'.trans (congrArg some hlist), hstart⟩
  · rw [hentered, hbuild]
    rfl
  · rw [hask Word.top (Nat.le_refl _), hasked]

end Schedule
end DutyRelay
