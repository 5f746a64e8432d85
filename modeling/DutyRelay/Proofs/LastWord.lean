import DutyRelay.Proofs.Comparison

/-!
# Which assignment has the last word

A build goes through the assignments in order, and through the slots of each in order. It gives up at the first
slot of another epoch. If there is none, later entries replace earlier ones, so that in the end every slot and
every key is as the last assignment has it that speaks of it. This file says so in terms of the assignments
alone: neither the claims, nor the table, nor the key map occur in what `build_last_word` states.

## Contents
- `listedSlots`, `FirstOutside`, `build_eq_error_iff`: when a build fails, and at which slot.
- `lastLister?`, `lastClaimant?_claimsOf`: the last assignment that lists a slot.
- `lastDuty?`, `lastKey?_eq`: the last assignment that gives a validator a slot.
- `Records`, `build_last_word`: the build, in full.
- `crowded`: two validators, one slot in common, and a key that changes.
-/

namespace DutyRelay

namespace Schedule

variable {length : EpochLength} {epoch : Epoch} {slot : Slot} {validator : ValidatorIndex}
  {assignments : List Assignment} {schedule : Schedule} {failure : Failure}

/-! ## The first slot of another epoch -/

/-- All slots that assignments list, in order. -/
def listedSlots (assignments : List Assignment) : List Slot := assignments.flatMap Assignment.slots

theorem mem_listedSlots :
    slot ∈ listedSlots assignments ↔ ∃ assignment ∈ assignments, slot ∈ assignment.slots :=
  List.mem_flatMap

/-- There is one claim for every listed slot. -/
theorem map_slot_claimsOf : (claimsOf assignments).map Claim.slot = listedSlots assignments := by
  have hclaims : ∀ assignment : Assignment, assignment.claims.map Claim.slot = assignment.slots := by
    intro assignment
    simp [Assignment.claims, Function.comp_def]
  unfold claimsOf listedSlots
  simp [List.map_flatMap, hclaims]

/-- The slot is listed, it lies in another epoch, and no slot listed before it does. -/
def FirstOutside (length : EpochLength) (epoch : Epoch) (assignments : List Assignment) (slot : Slot) :
    Prop :=
  ∃ before after, listedSlots assignments = before ++ slot :: after ∧ length.epochOf slot ≠ epoch ∧
    ∀ earlier ∈ before, length.epochOf earlier = epoch

theorem firstOutside_iff :
    FirstOutside length epoch assignments slot ↔
      (listedSlots assignments).find? (fun slot => length.epochOf slot ≠ epoch) = some slot := by
  rw [List.find?_eq_some_iff_append]
  constructor
  · rintro ⟨before, after, hsplit, houtside, hbefore⟩
    refine ⟨by simpa using houtside, before, after, hsplit, ?_⟩
    intro earlier hearlier
    simpa using hbefore earlier hearlier
  · rintro ⟨houtside, before, after, hsplit, hbefore⟩
    refine ⟨before, after, hsplit, by simpa using houtside, ?_⟩
    intro earlier hearlier
    simpa using hbefore earlier hearlier

/-- The failure of a build, looked for among the listed slots. -/
theorem strayFault?_eq :
    strayFault? length epoch assignments =
      ((listedSlots assignments).find? fun slot => length.epochOf slot ≠ epoch).map
        fun slot => .slotOutsideEpoch slot epoch := by
  unfold strayFault? stray?
  rw [← map_slot_claimsOf, List.find?_map, Option.map_map]
  rfl

/-- **A build fails at the first slot of another epoch**, and for no other reason. -/
theorem build_eq_error_iff :
    build length epoch assignments = .error failure ↔
      ∃ slot, FirstOutside length epoch assignments slot ∧ failure = .slotOutsideEpoch slot epoch := by
  rw [← fault?_eq_some_iff, fault_build, strayFault?_eq, Option.map_eq_some_iff]
  constructor
  · rintro ⟨slot, hfirst, rfl⟩
    exact ⟨slot, firstOutside_iff.mpr hfirst, rfl⟩
  · rintro ⟨slot, hfirst, rfl⟩
    exact ⟨slot, firstOutside_iff.mp hfirst, rfl⟩

/-- Some slot lies in another epoch exactly if there is a first one that does. -/
theorem exists_firstOutside_iff :
    (∃ slot, FirstOutside length epoch assignments slot) ↔
      ∃ slot ∈ listedSlots assignments, length.epochOf slot ≠ epoch := by
  simp only [firstOutside_iff, ← Option.isSome_iff_exists, List.find?_isSome, decide_eq_true_eq]

/-! ## The last entry of a kind, over several lists -/

section LastWhere

variable {α β : Type} {p : α → Bool} {f : α → β}

theorem lastWhere?_append (earlier later : List α) :
    lastWhere? p f (earlier ++ later) = (lastWhere? p f later).or (lastWhere? p f earlier) := by
  unfold lastWhere?
  rw [List.filter_append, List.map_append, List.getLast?_append]

theorem lastWhere?_eq_map (entries : List α) :
    lastWhere? p f entries = (entries.filter p).getLast?.map f := by
  unfold lastWhere?
  rw [List.getLast?_map]

end LastWhere

/-! ## The last assignment for a slot -/

/-- The last assignment that lists a slot. -/
def lastLister? (assignments : List Assignment) (slot : Slot) : Option Assignment :=
  (assignments.filter fun assignment => slot ∈ assignment.slots).getLast?

/-- All claims of an assignment are for its validator, so it is enough to know whether it lists the slot. -/
theorem lastClaimant?_claims (assignment : Assignment) (slot : Slot) :
    lastClaimant? assignment.claims slot =
      if slot ∈ assignment.slots then some assignment.validator else none := by
  by_cases hslot : slot ∈ assignment.slots
  · have hclaim : (⟨slot, assignment.validator⟩ : Claim) ∈ assignment.claims :=
      List.mem_map.mpr ⟨slot, hslot, rfl⟩
    obtain ⟨winner, hwinner⟩ : ∃ winner, lastClaimant? assignment.claims slot = some winner :=
      exists_lastWhere? hclaim (decide_eq_true rfl)
    obtain ⟨claim, hmem, _, hvalidator⟩ := mem_of_lastWhere? hwinner
    obtain ⟨slot', _, rfl⟩ := List.mem_map.mp hmem
    rw [hwinner, if_pos hslot, ← hvalidator]
  · rw [if_neg hslot]
    apply lastWhere?_eq_none
    intro claim hclaim heq
    obtain ⟨slot', hslot', rfl⟩ := List.mem_map.mp hclaim
    have hsame : slot' = slot := of_decide_eq_true heq
    exact hslot (hsame ▸ hslot')

/-- **The last claim to a slot is made by the last assignment that lists it.** -/
theorem lastClaimant?_claimsOf :
    lastClaimant? (claimsOf assignments) slot =
      (lastLister? assignments slot).map Assignment.validator := by
  unfold lastLister?
  rw [← lastWhere?_eq_map]
  induction assignments with
  | nil => rfl
  | cons assignment rest ih =>
    have hclaims : claimsOf (assignment :: rest) = assignment.claims ++ claimsOf rest := rfl
    have hfirst := lastClaimant?_claims assignment slot
    unfold lastClaimant? at ih hfirst ⊢
    rw [hclaims, lastWhere?_append, lastWhere?_cons, ih, hfirst]
    simp

theorem lastLister?_isSome_iff :
    (lastLister? assignments slot).isSome = true ↔ slot ∈ listedSlots assignments := by
  unfold lastLister?
  rw [List.getLast?_isSome, mem_listedSlots]
  simp

/-! ## The last assignment for a validator -/

/-- The last assignment of a validator that lists any slot. -/
def lastDuty? (assignments : List Assignment) (validator : ValidatorIndex) : Option Assignment :=
  (assignments.filter fun assignment =>
    assignment.validator = validator ∧ assignment.slots ≠ []).getLast?

theorem lastDuty?_isSome_iff :
    (lastDuty? assignments validator).isSome = true ↔
      ∃ assignment ∈ assignments, assignment.validator = validator ∧ assignment.slots ≠ [] := by
  unfold lastDuty?
  rw [List.getLast?_isSome]
  simp

theorem lastKey?_eq :
    lastKey? assignments validator = (lastDuty? assignments validator).map Assignment.key := by
  unfold lastKey? lastDuty?
  rw [lastWhere?_eq_map]
  congr 3
  funext assignment
  simp [Assignment.isProposer, and_comm]

/-! ## The build in full -/

/-- The schedule says of each slot and of each validator what the last assignment has that speaks of it. -/
structure Records (length : EpochLength) (epoch : Epoch) (assignments : List Assignment)
    (schedule : Schedule) : Prop where
  epoch_eq : schedule.epoch = epoch
  length_eq : schedule.length = length
  count : schedule.assignmentCount = assignments.length
  proposer : ∀ slot,
    schedule.proposer? slot = (lastLister? assignments slot).map Assignment.validator
  pubkey : ∀ validator,
    schedule.pubkey? validator = (lastDuty? assignments validator).map Assignment.key
  /-- Whoever proposes has a key. -/
  known : ∀ slot validator, schedule.proposer? slot = some validator →
    ∃ key, schedule.pubkey? validator = some key
  /-- A slot has a proposer exactly if it is listed, -/
  assigned : ∀ slot, (schedule.proposer? slot).isSome = true ↔ slot ∈ listedSlots assignments
  /-- and the key of its proposer is known for the same slots. -/
  present : ∀ slot, (schedule.proposerPubkey? slot).isSome = true ↔ slot ∈ listedSlots assignments

/-- The validator that proposes a slot of a built schedule has a key in it. -/
theorem exists_key_of_proposer? (h : build length epoch assignments = .ok schedule)
    (hproposer : schedule.proposer? slot = some validator) :
    ∃ key, schedule.pubkey? validator = some key := by
  rw [proposer?_of_build h] at hproposer
  obtain ⟨winner, key, hwinner, hkey⟩ := exists_winner (mem_of_lastClaimant? hproposer)
  obtain rfl : validator = winner := Option.some.inj (hproposer.symm.trans hwinner)
  exact ⟨key, (pubkey?_of_build h validator).trans hkey⟩

theorem records_of_build (h : build length epoch assignments = .ok schedule) :
    schedule.Records length epoch assignments := by
  obtain ⟨_, hepoch, hlength, _, _, hcount⟩ := eq_of_build h
  have hproposer : ∀ slot,
      schedule.proposer? slot = (lastLister? assignments slot).map Assignment.validator := by
    intro slot
    rw [proposer?_of_build h, lastClaimant?_claimsOf]
  have hassigned : ∀ slot,
      (schedule.proposer? slot).isSome = true ↔ slot ∈ listedSlots assignments := by
    intro slot
    rw [hproposer, Option.isSome_map, lastLister?_isSome_iff]
  refine ⟨hepoch, hlength, hcount, hproposer, ?_, fun _ _ => exists_key_of_proposer? h, hassigned, ?_⟩
  · intro validator
    rw [pubkey?_of_build h, lastKey?_eq]
  · intro slot
    rw [← hassigned]
    unfold proposerPubkey?
    cases hslot : schedule.proposer? slot with
    | none => simp
    | some validator =>
      obtain ⟨key, hkey⟩ := exists_key_of_proposer? h hslot
      simp [hkey]

/-- A validator has a key exactly if it lists a slot. -/
theorem pubkey?_isSome_iff (h : build length epoch assignments = .ok schedule) :
    (schedule.pubkey? validator).isSome = true ↔
      ∃ assignment ∈ assignments, assignment.validator = validator ∧ assignment.slots ≠ [] := by
  rw [(records_of_build h).pubkey, Option.isSome_map, lastDuty?_isSome_iff]

/-- **The last assignment has the word.** A build fails exactly if a listed slot lies in another epoch, and then
it names the first such slot. Otherwise there is a schedule: the proposer of a slot is the validator of the last
assignment that lists it, and the key of a validator is that of its last assignment that lists any slot. So the
proposer's key is known for every slot that is listed, and for no other. -/
theorem build_last_word (length : EpochLength) (epoch : Epoch) (assignments : List Assignment) :
    ((∃ failure, build length epoch assignments = .error failure) ↔
      ∃ slot ∈ listedSlots assignments, length.epochOf slot ≠ epoch) ∧
    (∀ failure, build length epoch assignments = .error failure ↔
      ∃ slot, FirstOutside length epoch assignments slot ∧ failure = .slotOutsideEpoch slot epoch) ∧
    ((∀ slot ∈ listedSlots assignments, length.epochOf slot = epoch) →
      ∃ schedule, build length epoch assignments = .ok schedule ∧
        schedule.Records length epoch assignments) := by
  refine ⟨?_, fun failure => build_eq_error_iff, ?_⟩
  · rw [← exists_firstOutside_iff]
    simp only [build_eq_error_iff]
    constructor
    · rintro ⟨_, slot, hfirst, _⟩
      exact ⟨slot, hfirst⟩
    · rintro ⟨slot, hfirst⟩
      exact ⟨_, slot, hfirst, rfl⟩
  · intro hinside
    obtain ⟨schedule, hbuild, _⟩ := build_of_strayFault_none
      (strayFault?_eq_none_iff.mpr fun assignment hmem slot hslot =>
        hinside slot (mem_listedSlots.mpr ⟨assignment, hmem, hslot⟩))
    exact ⟨schedule, hbuild, records_of_build hbuild⟩

/-- Validator 1 lists two slots, one of them twice, and then comes with another key; validator 2 has the last word
about slot 9. -/
def crowded : List Assignment :=
  [⟨1, ⟨[0xaa]⟩, [8, 9, 8]⟩, ⟨2, ⟨[0xbb]⟩, [9]⟩, ⟨1, ⟨[0xcc]⟩, [10]⟩, ⟨1, ⟨[0xdd]⟩, []⟩]

theorem crowded_last_word :
    (∃ schedule, build ⟨4, by decide⟩ 2 crowded = .ok schedule ∧ schedule.assignmentCount = 4 ∧
      schedule.proposer? 8 = some 1 ∧ schedule.proposer? 9 = some 2 ∧ schedule.proposer? 11 = none ∧
      schedule.pubkey? 1 = some ⟨[0xcc]⟩) ∧
    build ⟨4, by decide⟩ 2 (crowded ++ [⟨3, ⟨[]⟩, [11, 7, 12]⟩]) = .error (.slotOutsideEpoch 7 2) := by
  constructor
  · obtain ⟨schedule, hbuild, hrecords⟩ := (build_last_word ⟨4, by decide⟩ 2 crowded).2.2 (by decide)
    exact ⟨schedule, hbuild, hrecords.count, hrecords.proposer 8, hrecords.proposer 9,
      hrecords.proposer 11, hrecords.pubkey 1⟩
  · exact ((build_last_word ⟨4, by decide⟩ 2 _).2.1 _).mpr
      ⟨7, ⟨[8, 9, 8, 9, 10, 11], [12], rfl, by decide, by decide⟩, rfl⟩

end Schedule
end DutyRelay
