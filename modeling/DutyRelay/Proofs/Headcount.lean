import Mathlib.Data.Finset.Card
import DutyRelay.Proofs.Reordering

/-!
# How many validators a schedule counts

A schedule counts its proposers by their keys. A validator gets a key as soon as it lists a slot, and keeps it when
all its slots go to others. So the count is one of the validators that list a slot, and it exceeds the number of
those that propose one by the number of those that have lost every slot they list.

## Contents
- `owners`, `claimants`: the validators that propose a slot, and those that list one.
- `toFinset_keys`, `proposerCount_eq_card`: the count is one of the claimants.
- `proposerCount_eq_card_owners_iff`: when it is one of the owners.
- `proposerCount_by_owners`: the whole account; `shared`: a slot that changes hands without harm.
- `ousted_still_counted`: a validator that has lost its only slot.
-/

namespace DutyRelay

namespace Schedule

variable {length : EpochLength} {epoch : Epoch} {slot : Slot} {validator : ValidatorIndex}
  {assignments : List Assignment} {schedule : Schedule}

/-! ## Owners and claimants -/

/-- The validators that propose a slot. -/
def owners (schedule : Schedule) : Finset ValidatorIndex :=
  (schedule.proposers.map Claim.validator).toFinset

/-- The validators that list a slot. -/
def claimants (assignments : List Assignment) : Finset ValidatorIndex :=
  ((claimsOf assignments).map Claim.validator).toFinset

theorem mem_owners : validator ∈ schedule.owners ↔ ∃ slot, schedule.proposer? slot = some validator := by
  unfold owners
  rw [List.mem_toFinset, List.mem_map]
  constructor
  · rintro ⟨claim, hclaim, rfl⟩
    exact ⟨claim.slot, mem_proposers.mp hclaim⟩
  · rintro ⟨slot, hslot⟩
    exact ⟨⟨slot, validator⟩, mem_proposers.mpr hslot, rfl⟩

theorem mem_claimants :
    validator ∈ claimants assignments ↔ ∃ slot, (⟨slot, validator⟩ : Claim) ∈ claimsOf assignments := by
  unfold claimants
  rw [List.mem_toFinset, List.mem_map]
  constructor
  · rintro ⟨claim, hclaim, rfl⟩
    exact ⟨claim.slot, hclaim⟩
  · rintro ⟨slot, hclaim⟩
    exact ⟨_, hclaim, rfl⟩

/-- A claimant is a validator with an assignment that lists a slot. -/
theorem mem_claimants_iff_assignment :
    validator ∈ claimants assignments ↔
      ∃ assignment ∈ assignments, assignment.validator = validator ∧ assignment.slots ≠ [] := by
  rw [mem_claimants]
  constructor
  · rintro ⟨slot, hclaim⟩
    obtain ⟨assignment, hmem, hslot, hvalidator⟩ := mem_claimsOf.mp hclaim
    exact ⟨assignment, hmem, hvalidator.symm, List.ne_nil_of_mem hslot⟩
  · rintro ⟨assignment, hmem, rfl, hslots⟩
    obtain ⟨slot, hslot⟩ := List.exists_mem_of_ne_nil _ hslots
    exact ⟨slot, mem_claimsOf.mpr ⟨assignment, hmem, hslot, rfl⟩⟩

/-- A validator that proposes a slot lists it. -/
theorem owners_subset_claimants (h : build length epoch assignments = .ok schedule) :
    schedule.owners ⊆ claimants assignments := by
  intro validator howner
  obtain ⟨slot, hslot⟩ := mem_owners.mp howner
  rw [proposer?_of_build h] at hslot
  exact mem_claimants.mpr ⟨slot, mem_of_lastClaimant? hslot⟩

/-! ## The count -/

/-- The count of a schedule is the number of its keys. -/
theorem proposerCount_eq_card_keys (schedule : Schedule) :
    schedule.proposerCount = schedule.keys.keys.toFinset.card := by
  have hnodup : schedule.keys.keys.Nodup :=
    Std.ExtTreeMap.distinct_keys.imp fun hne heq => hne (Std.LawfulEqCmp.compare_eq_iff_eq.mpr heq)
  rw [List.toFinset_card_of_nodup hnodup, Std.ExtTreeMap.length_keys]
  rfl

theorem toFinset_keys (h : build length epoch assignments = .ok schedule) :
    schedule.keys.keys.toFinset = claimants assignments := by
  ext validator
  rw [List.mem_toFinset, Std.ExtTreeMap.mem_keys, Std.ExtTreeMap.mem_iff_isSome_getElem?,
    mem_claimants_iff_assignment]
  exact pubkey?_isSome_iff h

/-- **The count is one of the validators that list a slot.** -/
theorem proposerCount_eq_card (h : build length epoch assignments = .ok schedule) :
    schedule.proposerCount = (claimants assignments).card := by
  rw [proposerCount_eq_card_keys, toFinset_keys h]

/-- It is one of the validators that propose a slot exactly if these are all that list one. -/
theorem proposerCount_eq_card_owners_iff (h : build length epoch assignments = .ok schedule) :
    schedule.proposerCount = schedule.owners.card ↔ claimants assignments ⊆ schedule.owners := by
  rw [proposerCount_eq_card h]
  constructor
  · intro hcard
    rw [Finset.eq_of_subset_of_card_le (owners_subset_claimants h) (Nat.le_of_eq hcard)]
  · intro hsubset
    rw [Finset.Subset.antisymm hsubset (owners_subset_claimants h)]

/-- Without a contested slot, a validator that lists a slot proposes it. -/
theorem claimants_subset_owners (h : build length epoch assignments = .ok schedule)
    (huncontested : ∀ slot, ¬ Contested assignments slot) : claimants assignments ⊆ schedule.owners := by
  intro validator hclaimant
  obtain ⟨slot, hclaim⟩ := mem_claimants.mp hclaimant
  exact mem_owners.mpr ⟨slot, (proposer?_eq_some_iff h huncontested).mpr hclaim⟩

/-- **What the count of a schedule counts.** A validator has a key exactly if it lists a slot, and the count is the
number of those that propose one and of those that have lost every slot they list. It is the number of distinct
proposers exactly if only proposers have a key, that is if every validator that lists a slot has the last word
about one; this is so if no slot is contested. -/
theorem proposerCount_by_owners (h : build length epoch assignments = .ok schedule) :
    (∀ validator, (schedule.pubkey? validator).isSome = true ↔ validator ∈ claimants assignments) ∧
    schedule.proposerCount = schedule.owners.card + (claimants assignments \ schedule.owners).card ∧
    (schedule.proposerCount = schedule.owners.card ↔
      ∀ validator, (schedule.pubkey? validator).isSome = true ↔
        ∃ slot, schedule.proposer? slot = some validator) ∧
    (schedule.proposerCount = schedule.owners.card ↔
      ∀ assignment ∈ assignments, assignment.slots ≠ [] → ∃ slot,
        (lastLister? assignments slot).map Assignment.validator = some assignment.validator) ∧
    ((∀ slot, ¬ Contested assignments slot) → schedule.proposerCount = schedule.owners.card) := by
  have hkeyed : ∀ validator, (schedule.pubkey? validator).isSome = true ↔ validator ∈ claimants assignments :=
    fun validator => (pubkey?_isSome_iff h).trans mem_claimants_iff_assignment.symm
  have howners := owners_subset_claimants h
  refine ⟨hkeyed, ?_, ?_, ?_, ?_⟩
  · rw [proposerCount_eq_card h, Nat.add_comm, Finset.card_sdiff_add_card_eq_card howners]
  · rw [proposerCount_eq_card_owners_iff h]
    simp only [hkeyed, ← mem_owners]
    exact ⟨fun hsubset validator => ⟨fun hclaimant => hsubset hclaimant, fun howner => howners howner⟩,
      fun hsame validator hclaimant => (hsame validator).mp hclaimant⟩
  · rw [proposerCount_eq_card_owners_iff h]
    simp only [← (records_of_build h).proposer, ← mem_owners]
    constructor
    · intro hsubset assignment hmem hslots
      exact hsubset (mem_claimants_iff_assignment.mpr ⟨assignment, hmem, rfl, hslots⟩)
    · intro hproposes validator hclaimant
      obtain ⟨assignment, hmem, rfl, hslots⟩ := mem_claimants_iff_assignment.mp hclaimant
      exact hproposes assignment hmem hslots
  · intro huncontested
    exact (proposerCount_eq_card_owners_iff h).mpr (claimants_subset_owners h huncontested)

/-- Validator 1 loses one of its two slots to validator 2. -/
def shared : List Assignment := [⟨1, ⟨[0xaa]⟩, [8, 9]⟩, ⟨2, ⟨[0xbb]⟩, [9]⟩]

theorem shared_counted :
    ∃ schedule, build ⟨4, by decide⟩ 2 shared = .ok schedule ∧ Contested shared 9 ∧
      schedule.proposerCount = schedule.owners.card ∧ schedule.owners = {1, 2} := by
  obtain ⟨schedule, hbuild⟩ : ∃ schedule, build ⟨4, by decide⟩ 2 shared = .ok schedule := ⟨_, rfl⟩
  obtain ⟨_, _, _, hcount, _⟩ := proposerCount_by_owners hbuild
  refine ⟨schedule, hbuild, ⟨1, 2, by decide, by decide, by decide⟩, hcount.mpr ?_, ?_⟩
  · simp only [shared, List.forall_mem_cons, List.not_mem_nil, false_imp_iff, implies_true, and_true]
    exact ⟨fun _ => ⟨8, rfl⟩, fun _ => ⟨9, rfl⟩⟩
  · cases hbuild
    rfl

/-- Validator 1 loses its only slot to validator 2. -/
def ousted : List Assignment := [⟨1, ⟨[0xaa]⟩, [8]⟩, ⟨2, ⟨[0xbb]⟩, [8]⟩]

/-- **A validator without a slot may be counted.** It has listed one, and its key has stayed. -/
theorem ousted_still_counted :
    (∃ schedule, build ⟨4, by decide⟩ 2 ousted = .ok schedule ∧ schedule.proposerCount = 2 ∧
      schedule.proposers = [⟨8, 2⟩] ∧ schedule.pubkey? 1 = some ⟨[0xaa]⟩) ∧
    ¬ ∀ length epoch assignments schedule, build length epoch assignments = .ok schedule →
      schedule.proposerCount = (schedule.proposers.map Claim.validator).toFinset.card := by
  obtain ⟨schedule, hbuild, hcount, hproposers, hkey⟩ :
      ∃ schedule, build ⟨4, by decide⟩ 2 ousted = .ok schedule ∧ schedule.proposerCount = 2 ∧
        schedule.proposers = [⟨8, 2⟩] ∧ schedule.pubkey? 1 = some ⟨[0xaa]⟩ := ⟨_, rfl, rfl, rfl, rfl⟩
  refine ⟨⟨schedule, hbuild, hcount, hproposers, hkey⟩, fun hdistinct => ?_⟩
  have hsame := hdistinct _ _ _ _ hbuild
  rw [hcount, hproposers] at hsame
  cases hsame

end Schedule
end DutyRelay
