import DutyRelay.Compatibility
import DutyRelay.Proofs.Building

/-!
# Duties against the schedule that is made of them

A schedule is made of all claims together: where two validators claim one slot, the later claim has it. The
comparison takes the claims one by one, and a claim that lost its slot conflicts with the schedule just as a
claim from other duties would. So the same duties, reported once more, may be refused. This file says exactly
when that happens.

## Contents
- `conflict?_eq_none_iff`, `conflicts_eq_nil_iff`, `checkFresh_eq_ok_iff`: which duties are accepted.
- `Contested`: a slot that two validators claim; `exists_winner`: every claimed slot has a winner with a key.
- `checkFresh_of_uncontested`: duties without a contested slot are accepted by their own schedule.
- `checkFresh_built_iff`: in general, it is the key of the winner that decides.
- `rivals`, `rivals_refused`: duties that their own schedule refuses.
-/

namespace DutyRelay

namespace Schedule

variable {length : EpochLength} {epoch : Epoch} {slot : Slot} {assignments fresh : List Assignment}
  {schedule : Schedule} {claim : Claim}

/-! ## Which duties are accepted -/

/-- A claim raises no conflict exactly if the proposer on record for its slot, should it be another validator,
has an empty key or none. -/
theorem conflict?_eq_none_iff :
    schedule.conflict? claim = none ↔
      ∀ known key, schedule.proposer? claim.slot = some known → known ≠ claim.validator →
        schedule.pubkey? known = some key → key.isEmpty = true := by
  unfold conflict?
  cases hproposer : schedule.proposer? claim.slot with
  | none => simp
  | some known =>
    cases hkey : schedule.pubkey? known with
    | none =>
      constructor
      · intro _ known' key hknown _ hkey'
        obtain rfl := Option.some.inj hknown
        cases hkey.symm.trans hkey'
      · intro _
        simp [hkey]
    | some key =>
      constructor
      · intro h known' key' hknown hne hkey'
        obtain rfl := Option.some.inj hknown
        obtain rfl := Option.some.inj (hkey.symm.trans hkey')
        simpa [hkey, hne] using h
      · intro h
        by_cases hne : known = claim.validator
        · simp [hne]
        · simp [hkey, h known key rfl hne hkey]

theorem conflicts_eq_nil_iff :
    schedule.conflicts fresh = [] ↔
      ∀ claim ∈ claimsOf fresh, ∀ known key, schedule.proposer? claim.slot = some known →
        known ≠ claim.validator → schedule.pubkey? known = some key → key.isEmpty = true := by
  unfold conflicts
  simp only [List.filterMap_eq_nil_iff, conflict?_eq_none_iff]

theorem checkFresh_eq_ok_iff :
    schedule.checkFresh fresh = .ok () ↔ schedule.conflicts fresh = [] := by
  unfold checkFresh
  cases schedule.conflicts fresh <;> simp

/-- Duties that are not accepted are refused with the number of their conflicts. -/
theorem checkFresh_eq_error (h : schedule.conflicts fresh ≠ []) :
    schedule.checkFresh fresh = .error (.conflict schedule.epoch (schedule.conflicts fresh).length) := by
  unfold checkFresh
  cases hconflicts : schedule.conflicts fresh with
  | nil => exact absurd hconflicts h
  | cons conflict rest => rfl

/-! ## Contested slots -/

/-- Two different validators claim the slot. -/
def Contested (assignments : List Assignment) (slot : Slot) : Prop :=
  ∃ validator rival, validator ≠ rival ∧ (⟨slot, validator⟩ : Claim) ∈ claimsOf assignments ∧
    (⟨slot, rival⟩ : Claim) ∈ claimsOf assignments

/-- The validator that claims a slot last claims it. -/
theorem mem_of_lastClaimant? {winner : ValidatorIndex}
    (h : lastClaimant? (claimsOf assignments) slot = some winner) :
    (⟨slot, winner⟩ : Claim) ∈ claimsOf assignments := by
  obtain ⟨claim, hclaim, hslot, rfl⟩ := mem_of_lastWhere? h
  obtain rfl := of_decide_eq_true hslot
  exact hclaim

/-- Every claimed slot has a winner, and a winner has a key, since it lists a slot. -/
theorem exists_winner (hclaim : claim ∈ claimsOf assignments) :
    ∃ winner key, lastClaimant? (claimsOf assignments) claim.slot = some winner ∧
      lastKey? assignments winner = some key := by
  obtain ⟨winner, hwinner⟩ : ∃ winner, lastClaimant? (claimsOf assignments) claim.slot = some winner :=
    exists_lastWhere? hclaim (decide_eq_true rfl)
  obtain ⟨assignment, hassignment, hlisted, hvalidator⟩ :=
    mem_claimsOf.mp (mem_of_lastClaimant? hwinner)
  have hproposer : assignment.isProposer = true := by
    unfold Assignment.isProposer
    cases hslots : assignment.slots with
    | nil => simp [hslots] at hlisted
    | cons slot rest => rfl
  obtain ⟨key, hkey⟩ : ∃ key, lastKey? assignments winner = some key :=
    exists_lastWhere? hassignment (decide_eq_true ⟨hproposer, hvalidator.symm⟩)
  exact ⟨winner, key, hwinner, hkey⟩

/-! ## The same duties once more -/

/-- Duties without a contested slot are accepted by the schedule that is made of them. -/
theorem checkFresh_of_uncontested (h : build length epoch assignments = .ok schedule)
    (huncontested : ∀ slot, ¬ Contested assignments slot) :
    schedule.checkFresh assignments = .ok () := by
  rw [checkFresh_eq_ok_iff, conflicts_eq_nil_iff]
  intro claim hclaim known key hknown hne _
  rw [proposer?_of_build h] at hknown
  -- The proposer on record and the claimant would both claim the slot.
  exact absurd ⟨known, claim.validator, hne, mem_of_lastClaimant? hknown, hclaim⟩
    (huncontested claim.slot)

/-- **When the same duties are accepted once more.** The schedule that is made of them accepts them exactly if
every contested slot has gone to a validator whose key is empty. Otherwise they are refused for a conflict in
their epoch; and if no slot is contested they are accepted. -/
theorem checkFresh_built_iff (h : build length epoch assignments = .ok schedule) :
    (schedule.checkFresh assignments = .ok () ↔
      ∀ slot, Contested assignments slot →
        ∃ winner key, lastClaimant? (claimsOf assignments) slot = some winner ∧
          lastKey? assignments winner = some key ∧ key.isEmpty = true) ∧
    (schedule.checkFresh assignments ≠ .ok () →
      ∃ count, 0 < count ∧ schedule.checkFresh assignments = .error (.conflict epoch count)) ∧
    ((∀ slot, ¬ Contested assignments slot) → schedule.checkFresh assignments = .ok ()) := by
  refine ⟨?_, ?_, checkFresh_of_uncontested h⟩
  · rw [checkFresh_eq_ok_iff, conflicts_eq_nil_iff]
    simp only [proposer?_of_build h, pubkey?_of_build h]
    constructor
    · rintro haccepted slot ⟨validator, rival, hne, hvalidator, hrival⟩
      obtain ⟨winner, key, hwinner, hkey⟩ := exists_winner hvalidator
      refine ⟨winner, key, hwinner, hkey, ?_⟩
      -- At least one of the two is not the winner, and its claim is the one to look at.
      by_cases hwon : winner = validator
      · exact haccepted _ hrival winner key hwinner (hwon ▸ hne) hkey
      · exact haccepted _ hvalidator winner key hwinner hwon hkey
    · intro hempty claim hclaim known key hknown hne hkey
      obtain ⟨winner, key', hwinner, hkey', hisEmpty⟩ := hempty claim.slot
        ⟨known, claim.validator, hne, mem_of_lastClaimant? hknown, hclaim⟩
      obtain rfl := Option.some.inj (hknown.symm.trans hwinner)
      obtain rfl := Option.some.inj (hkey.symm.trans hkey')
      exact hisEmpty
  · intro hrefused
    have hconflicts : schedule.conflicts assignments ≠ [] :=
      fun hnone => hrefused (checkFresh_eq_ok_iff.mpr hnone)
    refine ⟨_, List.length_pos_iff.mpr hconflicts, ?_⟩
    rw [checkFresh_eq_error hconflicts, epoch_of_build h]

/-- Two validators that claim the same slot, the second one with the given key. -/
def rivals (key : PublicKey) : List Assignment := [⟨1, ⟨[0xaa]⟩, [8]⟩, ⟨2, key, [8]⟩]

/-- With an empty key the second claim does no harm to the first. -/
theorem rivals_accepted :
    ∃ schedule, build ⟨4, by decide⟩ 2 (rivals ⟨[]⟩) = .ok schedule ∧
      Contested (rivals ⟨[]⟩) 8 ∧ schedule.checkFresh (rivals ⟨[]⟩) = .ok () := by
  obtain ⟨schedule, hbuild⟩ : ∃ schedule, build ⟨4, by decide⟩ 2 (rivals ⟨[]⟩) = .ok schedule :=
    ⟨_, rfl⟩
  refine ⟨schedule, hbuild, ⟨1, 2, by decide, by decide, by decide⟩,
    (checkFresh_built_iff hbuild).1.mpr ?_⟩
  rintro slot ⟨validator, rival, _, hvalidator, _⟩
  have hslot : slot = 8 := by
    have hclaims : claimsOf (rivals ⟨[]⟩) = [⟨8, 1⟩, ⟨8, 2⟩] := rfl
    simp only [hclaims, List.mem_cons, Claim.mk.injEq, List.not_mem_nil, or_false] at hvalidator
    rcases hvalidator with ⟨hslot, _⟩ | ⟨hslot, _⟩ <;> exact hslot
  subst hslot
  exact ⟨2, ⟨[]⟩, rfl, rfl, rfl⟩

/-- **The same duties may be refused.** The second validator has the slot, and the claim of the first one is
taken for a change of the proposer. -/
theorem rivals_refused :
    (∃ schedule, build ⟨4, by decide⟩ 2 (rivals ⟨[0xbb]⟩) = .ok schedule ∧
      schedule.checkFresh (rivals ⟨[0xbb]⟩) = .error (.conflict 2 1)) ∧
    ¬ ∀ length epoch assignments schedule, build length epoch assignments = .ok schedule →
      schedule.checkFresh assignments = .ok () := by
  obtain ⟨schedule, hbuild, hrefused⟩ :
      ∃ schedule, build ⟨4, by decide⟩ 2 (rivals ⟨[0xbb]⟩) = .ok schedule ∧
        schedule.checkFresh (rivals ⟨[0xbb]⟩) = .error (.conflict 2 1) := ⟨_, rfl, rfl⟩
  refine ⟨⟨schedule, hbuild, hrefused⟩, fun haccepted => ?_⟩
  have hok := haccepted _ _ _ _ hbuild
  rw [hrefused] at hok
  cases hok

end Schedule
end DutyRelay
