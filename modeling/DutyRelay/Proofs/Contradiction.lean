import Mathlib.Data.List.Basic
import DutyRelay.Proofs.LastWord

/-!
# What the comparison finds

A schedule contradicts a claim if it has given the slot to another validator whose key has bytes. The comparison
lists the claims that are contradicted, and nothing else: in the order in which they come, and each as often as it
comes. If there is none, the schedule that is made of the fresh duties has the same proposers as the one on record
wherever both have one and the key on record has bytes, since whoever proposes a slot has claimed it.

## Contents
- `Contradicts`, `contradictions`: the claims to look for; `map_claim_conflicts`: they are found.
- `Contradicts.listed`: they are about slots that the schedule was built for.
- `checkFresh_eq_error_iff`: the verdict with its count.
- `proposer?_eq_of_checkFresh`: schedules made of duties that pass.
- `conflicts_are_contradictions`: all of it; `disputed`: duties with three conflicts at two slots.
-/

namespace DutyRelay

/-- The claim that raises a conflict. -/
def Conflict.claim (conflict : Conflict) : Claim := ⟨conflict.slot, conflict.fresh⟩

namespace Schedule

variable {length : EpochLength} {epoch : Epoch} {slot : Slot} {assignments fresh : List Assignment}
  {schedule other : Schedule} {claim : Claim} {conflict : Conflict} {failure : Failure}

/-! ## Contradicting claims -/

/-- The schedule has given the slot to another validator, and that validator's key has bytes. -/
def Contradicts (schedule : Schedule) (claim : Claim) : Prop :=
  ∃ known ∈ schedule.proposer? claim.slot, known ≠ claim.validator ∧
    ∃ key ∈ schedule.pubkey? known, key.isEmpty = false

instance (schedule : Schedule) : DecidablePred schedule.Contradicts := fun _ =>
  inferInstanceAs (Decidable (∃ _ ∈ _, _))

theorem conflict?_eq_none_iff_not_contradicts :
    schedule.conflict? claim = none ↔ ¬ schedule.Contradicts claim := by
  rw [conflict?_eq_none_iff]
  constructor
  · rintro hempty ⟨known, hknown, hne, key, hkey, hbytes⟩
    rw [hempty known key hknown hne hkey] at hbytes
    cases hbytes
  · intro hnone known key hknown hne hkey
    by_contra hbytes
    exact hnone ⟨known, hknown, hne, key, hkey, by simpa using hbytes⟩

/-- A conflict names the slot and the validator of its claim, and the proposer on record. -/
theorem conflict?_eq_some_iff :
    schedule.conflict? claim = some conflict ↔
      schedule.Contradicts claim ∧ conflict.claim = claim ∧
        schedule.proposer? claim.slot = some conflict.known := by
  constructor
  · intro h
    refine ⟨?_, ?_⟩
    · by_contra hnone
      rw [conflict?_eq_none_iff_not_contradicts.mpr hnone] at h
      cases h
    · unfold conflict? at h
      split at h
      · cases h
      · next known hknown =>
        split at h
        · obtain rfl := Option.some.inj h
          exact ⟨rfl, hknown⟩
        · cases h
  · rintro ⟨⟨known, hknown, hne, key, hkey, hbytes⟩, rfl, hsame⟩
    obtain rfl := Option.some.inj (hsame.symm.trans hknown)
    have hany : (schedule.pubkey? conflict.known).any (fun key => !key.isEmpty) = true := by
      rw [Option.mem_def.mp hkey, Option.any_some, hbytes]
      rfl
    unfold conflict?
    rw [hsame]
    exact if_pos ⟨hne, hany⟩

/-- The claims among fresh duties that contradict the schedule, in order and each as often as it comes. -/
def contradictions (schedule : Schedule) (fresh : List Assignment) : List Claim :=
  (claimsOf fresh).filter fun claim => schedule.Contradicts claim

theorem mem_contradictions :
    claim ∈ schedule.contradictions fresh ↔ claim ∈ claimsOf fresh ∧ schedule.Contradicts claim := by
  unfold contradictions
  rw [List.mem_filter, decide_eq_true_eq]

/-- **The comparison finds the contradicting claims**, one conflict for each. -/
theorem map_claim_conflicts :
    (schedule.conflicts fresh).map Conflict.claim = schedule.contradictions fresh := by
  unfold conflicts contradictions
  rw [List.map_filterMap, ← List.filterMap_eq_filter]
  apply List.filterMap_congr
  intro claim _
  cases hconflict : schedule.conflict? claim with
  | none =>
    have hnone := conflict?_eq_none_iff_not_contradicts.mp hconflict
    simp [Option.guard, hnone]
  | some conflict =>
    obtain ⟨hcontradicts, hclaim, _⟩ := conflict?_eq_some_iff.mp hconflict
    simp [Option.guard, hcontradicts, hclaim]

/-- Only a slot that the schedule was built for can be contradicted. -/
theorem Contradicts.listed (h : build length epoch assignments = .ok schedule)
    (hcontradicts : schedule.Contradicts claim) : claim.slot ∈ listedSlots assignments := by
  obtain ⟨known, hknown, _⟩ := hcontradicts
  exact ((records_of_build h).assigned _).mp (Option.isSome_iff_exists.mpr ⟨known, hknown⟩)

/-! ## The verdict -/

theorem conflicts_eq_nil_iff_contradictions :
    schedule.conflicts fresh = [] ↔ schedule.contradictions fresh = [] := by
  rw [← map_claim_conflicts, List.map_eq_nil_iff]

theorem checkFresh_eq_ok_iff_contradictions :
    schedule.checkFresh fresh = .ok () ↔ schedule.contradictions fresh = [] := by
  rw [checkFresh_eq_ok_iff, conflicts_eq_nil_iff_contradictions]

/-- Duties are refused for nothing but contradicting claims, and for their number. -/
theorem checkFresh_eq_error_iff :
    schedule.checkFresh fresh = .error failure ↔
      schedule.contradictions fresh ≠ [] ∧
        failure = .conflict schedule.epoch (schedule.contradictions fresh).length := by
  by_cases hnone : schedule.contradictions fresh = []
  · rw [checkFresh_eq_ok_iff_contradictions.mpr hnone]
    exact ⟨nofun, fun h => absurd hnone h.1⟩
  · have hsome : schedule.conflicts fresh ≠ [] :=
      fun hnil => hnone (conflicts_eq_nil_iff_contradictions.mp hnil)
    rw [checkFresh_eq_error hsome, Except.error.injEq, ← map_claim_conflicts, List.length_map]
    exact ⟨fun h => ⟨by rwa [map_claim_conflicts], h.symm⟩, fun h => h.2.symm⟩

/-! ## Schedules made of duties that pass -/

/-- The schedule that is made of duties that pass has the same proposer where both have one, unless the key on
record is empty. -/
theorem proposer?_eq_of_checkFresh {known proposer : ValidatorIndex} {key : PublicKey}
    (hpass : schedule.checkFresh fresh = .ok ()) (hother : build length epoch fresh = .ok other)
    (hknown : schedule.proposer? slot = some known) (hproposer : other.proposer? slot = some proposer)
    (hkey : schedule.pubkey? known = some key) (hbytes : key.isEmpty = false) : known = proposer := by
  -- Whoever proposes the slot now has claimed it, and the claim has passed.
  rw [proposer?_of_build hother] at hproposer
  have hclaim := mem_of_lastClaimant? hproposer
  by_contra hne
  have hfound := mem_contradictions.mpr ⟨hclaim, known, hknown, hne, key, hkey, hbytes⟩
  rw [checkFresh_eq_ok_iff_contradictions.mp hpass] at hfound
  cases hfound

/-- **What the comparison finds.** The conflicts of fresh duties with a built schedule are the claims among them
that contradict it, in order and each as often as it comes, each with the proposer on record; all of them are
about slots that the schedule was built for. The duties pass if there is none, and otherwise they are refused
with the epoch of the schedule and the number of conflicts. If they pass, the schedule that is made of them has
the same proposer for every slot where both have one and the key on record has bytes. -/
theorem conflicts_are_contradictions (h : build length epoch assignments = .ok schedule)
    (fresh : List Assignment) :
    (schedule.conflicts fresh).map Conflict.claim = schedule.contradictions fresh ∧
    (∀ conflict ∈ schedule.conflicts fresh, schedule.proposer? conflict.slot = some conflict.known ∧
      conflict.slot ∈ listedSlots assignments) ∧
    (schedule.checkFresh fresh = .ok () ↔ ∀ claim ∈ claimsOf fresh, ¬ schedule.Contradicts claim) ∧
    (∀ failure, schedule.checkFresh fresh = .error failure ↔
      (∃ claim ∈ claimsOf fresh, schedule.Contradicts claim) ∧
        failure = .conflict epoch (schedule.contradictions fresh).length) ∧
    (schedule.checkFresh fresh = .ok () → ∀ other, build length epoch fresh = .ok other →
      ∀ slot known proposer key, schedule.proposer? slot = some known →
        other.proposer? slot = some proposer → schedule.pubkey? known = some key → key.isEmpty = false →
          known = proposer) := by
  have hnone : schedule.contradictions fresh = [] ↔
      ∀ claim ∈ claimsOf fresh, ¬ schedule.Contradicts claim := by
    rw [List.eq_nil_iff_forall_not_mem]
    simp only [mem_contradictions, not_and]
  refine ⟨map_claim_conflicts, ?_, checkFresh_eq_ok_iff_contradictions.trans hnone, ?_, ?_⟩
  · intro conflict hconflict
    obtain ⟨claim, _, hfound⟩ := List.mem_filterMap.mp hconflict
    obtain ⟨hcontradicts, rfl, hknown⟩ := conflict?_eq_some_iff.mp hfound
    exact ⟨hknown, hcontradicts.listed h⟩
  · intro failure
    rw [checkFresh_eq_error_iff, epoch_of_build h, Ne, hnone]
    simp only [not_forall, not_not, exists_prop]
  · intro hpass other hother slot known proposer key
    exact proposer?_eq_of_checkFresh hpass hother

/-- Validator 2 has no key on record. -/
def onRecord : List Assignment := [⟨1, ⟨[0xaa]⟩, [8, 9]⟩, ⟨2, ⟨[]⟩, [10]⟩]

/-- Validator 3 claims both slots of validator 1, and one of them twice. -/
def disputed : List Assignment := [⟨3, ⟨[0xcc]⟩, [9, 8, 9]⟩, ⟨4, ⟨[0xdd]⟩, [10, 11, 99]⟩, ⟨1, ⟨[]⟩, [8]⟩]

/-- Validator 4 takes the slot of validator 2, which nothing is known of, and the free one. -/
def undisputed : List Assignment := [⟨1, ⟨[0xee]⟩, [9]⟩, ⟨4, ⟨[0xdd]⟩, [10, 11]⟩]

/-- Three claims contradict the record, at two slots; and duties that pass may well come to another schedule. -/
theorem disputed_refused :
    ∃ schedule other, build ⟨4, by decide⟩ 2 onRecord = .ok schedule ∧
      schedule.checkFresh disputed = .error (.conflict 2 3) ∧
      (schedule.conflicts disputed).map Conflict.claim = [⟨9, 3⟩, ⟨8, 3⟩, ⟨9, 3⟩] ∧
      build ⟨4, by decide⟩ 2 undisputed = .ok other ∧ schedule.checkFresh undisputed = .ok () ∧
      other.proposer? 10 ≠ schedule.proposer? 10 ∧
      ∀ proposer, other.proposer? 9 = some proposer → 1 = proposer := by
  obtain ⟨schedule, hbuild⟩ : ∃ schedule, build ⟨4, by decide⟩ 2 onRecord = .ok schedule := ⟨_, rfl⟩
  obtain ⟨other, hother⟩ : ∃ other, build ⟨4, by decide⟩ 2 undisputed = .ok other := ⟨_, rfl⟩
  obtain ⟨hclaims, _, _, hrefused, _⟩ := conflicts_are_contradictions hbuild disputed
  obtain ⟨_, _, hpassed, _, hagree⟩ := conflicts_are_contradictions hbuild undisputed
  cases hbuild
  have hpass := hpassed.mpr (by decide)
  refine ⟨_, other, rfl, (hrefused _).mpr ⟨by decide, rfl⟩, hclaims, hother, hpass, ?_, ?_⟩
  · cases hother
    decide
  · intro proposer hproposer
    exact hagree hpass other hother 9 1 proposer ⟨[0xaa]⟩ rfl hproposer rfl rfl

end Schedule
end DutyRelay
