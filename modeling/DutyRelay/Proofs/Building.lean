import DutyRelay.Proofs.Window

/-!
# What a schedule is made of

A schedule is built by entering one claim after another into a table, and one key after another into a map.
This file says what can be read from it afterwards, in terms of the assignments alone: the proposer of a slot
is the validator that claims it last, and a validator has the key of the last of its assignments that lists
a slot.

## Contents
- `EpochLength.eq_of_offsetOf`: a slot is known by its epoch and its offset.
- `lastClaimant?`, `getElem?_fill`, `proposer?_of_build`: proposers.
- `lastKey?`, `getElem?_keysOf`, `pubkey?_of_build`: keys.
- `assignment_of_proposer?`, `assignment_of_pubkey?`: nothing is made up.
-/

namespace DutyRelay

/-- A slot is known by its epoch and its offset. -/
theorem EpochLength.eq_of_offsetOf {length : EpochLength} {slot other : Slot}
    (hepoch : length.epochOf slot = length.epochOf other)
    (hoffset : length.offsetOf slot = length.offsetOf other) : slot = other := by
  rw [← length.firstSlot_add_offsetOf slot, ← length.firstSlot_add_offsetOf other, hepoch, hoffset]

namespace Schedule

/-! ## The last entry of a kind -/

section LastWhere

variable {α β : Type} {p : α → Bool} {f : α → β} {entries : List α}

/-- What the last entry that is selected amounts to. -/
def lastWhere? (p : α → Bool) (f : α → β) (entries : List α) : Option β :=
  ((entries.filter p).map f).getLast?

theorem lastWhere?_cons (entry : α) :
    lastWhere? p f (entry :: entries) =
      (lastWhere? p f entries).or (if p entry then some (f entry) else none) := by
  unfold lastWhere?
  by_cases hentry : p entry = true
  · rw [List.filter_cons_of_pos hentry, List.map_cons, List.getLast?_cons, if_pos hentry,
      Option.or_some]
  · rw [List.filter_cons_of_neg hentry, if_neg hentry, Option.or_none]

theorem lastWhere?_eq_none (h : ∀ entry ∈ entries, ¬ p entry = true) :
    lastWhere? p f entries = none := by
  unfold lastWhere?
  rw [List.filter_eq_nil_iff.mpr h]
  rfl

theorem mem_of_lastWhere? {value : β} (h : lastWhere? p f entries = some value) :
    ∃ entry ∈ entries, p entry = true ∧ f entry = value := by
  obtain ⟨entry, hentry, hvalue⟩ := List.mem_map.mp (List.mem_of_getLast? h)
  obtain ⟨hmem, hselected⟩ := List.mem_filter.mp hentry
  exact ⟨entry, hmem, hselected, hvalue⟩

/-- If any entry is selected, there is a last one. -/
theorem exists_lastWhere? {entry : α} (hentry : entry ∈ entries) (hselected : p entry = true) :
    ∃ value, lastWhere? p f entries = some value := by
  have hmem : f entry ∈ (entries.filter p).map f :=
    List.mem_map.mpr ⟨entry, List.mem_filter.mpr ⟨hentry, hselected⟩, rfl⟩
  exact ⟨_, List.getLast?_eq_some_getLast (List.ne_nil_of_mem hmem)⟩

end LastWhere

variable {length : EpochLength} {epoch : Epoch} {slot : Slot} {validator : ValidatorIndex}
  {assignments : List Assignment} {claims : List Claim} {schedule : Schedule}

/-! ## Proposers -/

/-- The validator that claims a slot last. -/
def lastClaimant? (claims : List Claim) (slot : Slot) : Option ValidatorIndex :=
  lastWhere? (fun claim => claim.slot = slot) Claim.validator claims

/-- A claim is entered in the cell of its slot, and nowhere else. -/
theorem getElem?_enter {table : SlotTable} {claim : Claim} (hsize : table.size = length.slots)
    (hepoch : length.epochOf claim.slot = length.epochOf slot) :
    (enter length table claim)[length.offsetOf slot]? =
      if claim.slot = slot then some (some claim.validator) else table[length.offsetOf slot]? := by
  unfold enter
  rw [Array.getElem?_setIfInBounds]
  by_cases hslot : claim.slot = slot
  · rw [if_pos hslot, hslot, if_pos rfl, if_pos (hsize ▸ length.offsetOf_lt slot)]
  · rw [if_neg hslot, if_neg fun hoffset => hslot (EpochLength.eq_of_offsetOf hepoch hoffset)]

/-- Once claims have been entered, a cell holds the last claimant of its slot, or else what it held. -/
theorem getElem?_foldl_enter {table : SlotTable} (hsize : table.size = length.slots)
    (hepoch : ∀ claim ∈ claims, length.epochOf claim.slot = length.epochOf slot) :
    ((claims.foldl (enter length) table)[length.offsetOf slot]?).join =
      (lastClaimant? claims slot).or (table[length.offsetOf slot]?).join := by
  induction claims generalizing table with
  | nil => rfl
  | cons claim rest ih =>
    have hrest : ∀ claim ∈ rest, length.epochOf claim.slot = length.epochOf slot :=
      fun claim hclaim => hepoch claim (List.mem_cons_of_mem _ hclaim)
    rw [List.foldl_cons, ih ((size_enter length table claim).trans hsize) hrest,
      getElem?_enter hsize (hepoch claim List.mem_cons_self), lastClaimant?, lastClaimant?,
      lastWhere?_cons, Option.or_assoc]
    by_cases hslot : claim.slot = slot
    · rw [if_pos hslot, if_pos (decide_eq_true hslot)]; rfl
    · rw [if_neg hslot, if_neg (by simpa using hslot)]; rfl

theorem getElem?_fill (hepoch : ∀ claim ∈ claims, length.epochOf claim.slot = length.epochOf slot) :
    ((fill length claims)[length.offsetOf slot]?).join = lastClaimant? claims slot := by
  have hblank : ((blank length)[length.offsetOf slot]?).join = none := by
    unfold blank
    rw [Array.getElem?_replicate, if_pos (length.offsetOf_lt slot)]
    rfl
  have hsize : (blank length).size = length.slots := Array.size_replicate
  unfold fill
  rw [getElem?_foldl_enter hsize hepoch, hblank, Option.or_none]

/-- A built schedule, part by part. -/
theorem eq_of_build (h : build length epoch assignments = .ok schedule) :
    (∀ claim ∈ claimsOf assignments, length.epochOf claim.slot = epoch) ∧
      schedule.epoch = epoch ∧ schedule.length = length ∧
      schedule.table = fill length (claimsOf assignments) ∧ schedule.keys = keysOf assignments ∧
      schedule.assignmentCount = assignments.length := by
  unfold build at h
  cases hstray : stray? length epoch assignments with
  | some claim =>
    rw [hstray] at h
    cases h
  | none =>
    rw [hstray] at h
    cases h
    refine ⟨fun claim hclaim => ?_, rfl, rfl, rfl, rfl, rfl⟩
    simpa using List.find?_eq_none.mp hstray claim hclaim

/-- **The proposer of a slot is the validator that claims it last.** -/
theorem proposer?_of_build (h : build length epoch assignments = .ok schedule) (slot : Slot) :
    schedule.proposer? slot = lastClaimant? (claimsOf assignments) slot := by
  obtain ⟨hclaims, hepoch, hlength, htable, _⟩ := eq_of_build h
  unfold proposer? containsSlot
  rw [hepoch, hlength, htable]
  by_cases hslot : length.epochOf slot = epoch
  · rw [if_pos (decide_eq_true hslot)]
    exact getElem?_fill fun claim hclaim => (hclaims claim hclaim).trans hslot.symm
  · -- A slot of another epoch is not claimed at all.
    rw [if_neg (by simpa using hslot)]
    refine (lastWhere?_eq_none fun claim hclaim heq => hslot ?_).symm
    rw [← of_decide_eq_true heq]
    exact hclaims claim hclaim

/-! ## Keys -/

/-- The key in the last assignment of a validator that lists a slot. -/
def lastKey? (assignments : List Assignment) (validator : ValidatorIndex) : Option PublicKey :=
  lastWhere? (fun assignment => assignment.isProposer ∧ assignment.validator = validator)
    Assignment.key assignments

theorem getElem?_keysOf :
    (keysOf assignments)[validator]? = lastKey? assignments validator := by
  unfold keysOf
  suffices h : ∀ keys : Std.ExtTreeMap ValidatorIndex PublicKey,
      (assignments.foldl (fun keys assignment =>
          if assignment.isProposer then keys.insert assignment.validator assignment.key
          else keys) keys)[validator]? =
        (lastKey? assignments validator).or keys[validator]? by
    rw [h ∅, Std.ExtTreeMap.getElem?_empty, Option.or_none]
  induction assignments with
  | nil => exact fun keys => rfl
  | cons assignment rest ih =>
    intro keys
    rw [List.foldl_cons, ih, lastKey?, lastKey?, lastWhere?_cons, Option.or_assoc]
    congr 1
    by_cases hproposer : assignment.isProposer = true
    · rw [if_pos hproposer, Std.ExtTreeMap.getElem?_insert]
      by_cases hvalidator : assignment.validator = validator
      · rw [if_pos (Std.LawfulEqCmp.compare_eq_iff_eq.mpr hvalidator),
          if_pos (decide_eq_true ⟨hproposer, hvalidator⟩)]
        rfl
      · rw [if_neg fun heq => hvalidator (Std.LawfulEqCmp.compare_eq_iff_eq.mp heq),
          if_neg fun hkey => hvalidator (of_decide_eq_true hkey).2]
        rfl
    · rw [if_neg hproposer, if_neg fun hkey => hproposer (of_decide_eq_true hkey).1]
      rfl

/-- **A validator has the key of the last of its assignments that lists a slot.** -/
theorem pubkey?_of_build (h : build length epoch assignments = .ok schedule)
    (validator : ValidatorIndex) :
    schedule.pubkey? validator = lastKey? assignments validator := by
  obtain ⟨_, _, _, _, hkeys, _⟩ := eq_of_build h
  unfold pubkey?
  rw [hkeys, getElem?_keysOf]

/-! ## Nothing is made up -/

/-- A proposer has claimed its slot. -/
theorem assignment_of_proposer? (h : build length epoch assignments = .ok schedule)
    (hproposer : schedule.proposer? slot = some validator) :
    ∃ assignment ∈ assignments, assignment.validator = validator ∧ slot ∈ assignment.slots := by
  rw [proposer?_of_build h] at hproposer
  obtain ⟨claim, hmem, hslot, rfl⟩ := mem_of_lastWhere? hproposer
  obtain ⟨assignment, hassignment, hlisted, hvalidator⟩ := mem_claimsOf.mp hmem
  exact ⟨assignment, hassignment, hvalidator.symm, of_decide_eq_true hslot ▸ hlisted⟩

/-- A key has come with a slot of its validator. -/
theorem assignment_of_pubkey? {key : PublicKey} (h : build length epoch assignments = .ok schedule)
    (hkey : schedule.pubkey? validator = some key) :
    ∃ assignment ∈ assignments, assignment.validator = validator ∧ assignment.key = key ∧
      assignment.slots ≠ [] := by
  rw [pubkey?_of_build h] at hkey
  obtain ⟨assignment, hmem, hfits, rfl⟩ := mem_of_lastWhere? hkey
  obtain ⟨hproposer, hvalidator⟩ := of_decide_eq_true hfits
  refine ⟨assignment, hmem, hvalidator, rfl, fun hnone => ?_⟩
  unfold Assignment.isProposer at hproposer
  rw [hnone] at hproposer
  cases hproposer

end Schedule
end DutyRelay
