import DutyRelay.Proofs.FromDuties
import DutyRelay.Proofs.Headcount

/-!
# Duties that leave the list of keys in place

The sentinel is put in front of the keys of the first epoch if there are more assignments than slots. Assignments
that have been gathered from duties are never idle: there is one for each validator, with at least one slot. If no
two validators compete for a slot, each of them has one to itself, and there can be no more of them than assigned
slots. So the keys are shifted only if some slot is contested; and if every slot is reported once, the list holds
one key for every duty.

## Contents
- `proposerCount_of_gathered`: the count of a schedule is that of the assignments.
- `assignmentCount_le_assignedSlots`, `needsSentinel_eq_false`: validators that do not compete.
- `perm_assigned`: duties for different slots, and the assigned slots.
- `distinct_duties_unshifted`: the whole account; `fullGenesis`: a first epoch without a slot to spare.
-/

namespace DutyRelay

namespace Schedule

variable {length : EpochLength} {epoch : Epoch} {duties : List Duty} {assignments : List Assignment}
  {schedule : Schedule}

/-! ## Validators and assignments -/

/-- **Every assignment counts.** None of them is without a slot, and no two are for one validator. -/
theorem proposerCount_of_gathered {claims : List Claim} (h : build length epoch assignments = .ok schedule)
    (hgathered : Gathered claims assignments) : schedule.proposerCount = schedule.assignmentCount := by
  have hsame : claimants assignments = (claims.map Claim.validator).toFinset :=
    List.toFinset_eq_of_perm _ _ (hgathered.claims.map _)
  rw [proposerCount_eq_card h, hsame, ← length_of_gathered hgathered, (records_of_build h).count]

/-- There are no more owners than assigned slots. -/
theorem card_owners_le (schedule : Schedule) : schedule.owners.card ≤ schedule.assignedSlots := by
  calc schedule.owners.card
    _ ≤ (schedule.proposers.map Claim.validator).length := List.toFinset_card_le _
    _ = (schedule.proposers.map Claim.slot).length := by rw [List.length_map, List.length_map]
    _ = schedule.assignedSlots := by rw [map_slot_proposers, assignedSlots_eq]

/-- Validators that do not compete have a slot each. -/
theorem assignmentCount_le_assignedSlots (h : build length epoch assignments = .ok schedule)
    (hgathered : Gathered (duties.map Duty.claim) assignments) (howned : SingleOwned duties) :
    schedule.assignmentCount ≤ schedule.assignedSlots := by
  have huncontested : ∀ slot, ¬ Contested assignments slot :=
    fun slot => not_contested_of_singleOwned howned hgathered
  have hcount := (proposerCount_eq_card_owners_iff h).mpr (claimants_subset_owners h huncontested)
  rw [← proposerCount_of_gathered h hgathered, hcount]
  exact schedule.card_owners_le

theorem assignedSlots_le (schedule : Schedule) : schedule.assignedSlots ≤ schedule.length.slots := by
  rw [assignedSlots_eq]
  exact schedule.length_assigned_le

/-- The keys stay in place if there are no more assignments than assigned slots. -/
theorem needsSentinel_eq_false (h : schedule.assignmentCount ≤ schedule.assignedSlots) :
    schedule.needsSentinel = false := by
  have hfew : ¬ schedule.length.slots < schedule.assignmentCount :=
    Nat.not_lt_of_le (Nat.le_trans h schedule.assignedSlots_le)
  unfold needsSentinel
  rw [decide_eq_false hfew, Bool.and_false]

theorem opening_eq_nil (h : schedule.needsSentinel = false) : schedule.opening = [] := by
  unfold needsSentinel at h
  unfold opening
  rw [if_neg]
  simpa using h

/-! ## Duties for different slots -/

/-- Duties for different slots do not compete. -/
theorem singleOwned_of_nodup (h : (duties.map Duty.slot).Nodup) : SingleOwned duties := by
  intro one hone two htwo hslot
  rw [List.inj_on_of_nodup_map h hone htwo hslot]

/-- Every duty has its slot assigned, and no other slot is. -/
theorem perm_assigned (hreports : schedule.Reports duties) (hdistinct : (duties.map Duty.slot).Nodup) :
    schedule.assigned.Perm (duties.map Duty.slot) := by
  have hnodup : schedule.assigned.Nodup := schedule.assigned_increasing.imp Nat.ne_of_lt
  refine (List.perm_ext_iff_of_nodup hnodup hdistinct).mpr fun slot => ?_
  rw [mem_assigned, Option.isSome_iff_ne_none, Ne, hreports.vacant, List.mem_map]
  simp only [not_forall, not_not, exists_prop]

/-- **When duties shift the keys.** The sentinel is put in front only if some slot is reported for two validators.
If all duties are for different slots, there are as many proposers as assignments, no more than assigned slots,
which are as many as the duties and no more than the epoch has. So the keys stay in place, in the first epoch as
in any other: the payload holds the key of every assigned slot, one for each duty, and nothing else. -/
theorem distinct_duties_unshifted (calendar : Calendar) (h : ofDuties length epoch duties = .ok schedule) :
    (schedule.needsSentinel = true → ∃ one ∈ duties, ∃ two ∈ duties,
      one.slot = two.slot ∧ one.validator ≠ two.validator) ∧
    ((duties.map Duty.slot).Nodup →
      schedule.proposerCount = schedule.assignmentCount ∧
      schedule.assignmentCount ≤ schedule.assignedSlots ∧
      schedule.assignedSlots = duties.length ∧ duties.length ≤ length.slots ∧
      schedule.needsSentinel = false ∧
      (∃ keys : List PublicKey, schedule.assigned.map schedule.proposerPubkey? = keys.map some ∧
        (calendar.payload schedule).keys = keys.map PublicKey.text) ∧
      (calendar.payload schedule).keys.length = duties.length) := by
  obtain ⟨assignments, hduties, hbuild⟩ := ofDuties_eq_ok_iff.mp h
  have hgathered := gathered_of_duties hduties
  constructor
  · intro hneeds
    by_contra hnone
    have howned : SingleOwned duties := by
      intro one hone two htwo hslot
      by_contra hne
      exact hnone ⟨one, hone, two, htwo, hslot, hne⟩
    rw [needsSentinel_eq_false (assignmentCount_le_assignedSlots hbuild hgathered howned)] at hneeds
    cases hneeds
  · intro hdistinct
    have hfew := assignmentCount_le_assignedSlots hbuild hgathered (singleOwned_of_nodup hdistinct)
    have hunshifted := needsSentinel_eq_false hfew
    have hslots : schedule.assigned.length = duties.length := by
      rw [(perm_assigned (reports_of_duties hduties hbuild) hdistinct).length_eq, List.length_map]
    have hassigned : schedule.assignedSlots = duties.length := by
      rw [assignedSlots_eq, hslots]
    obtain ⟨keys, hkeys⟩ := exists_keys hbuild
    have hlist : (calendar.payload schedule).keys = keys.map PublicKey.text := by
      show schedule.keyTexts = keys.map PublicKey.text
      rw [keyTexts_of_keys hkeys, opening_eq_nil hunshifted, List.nil_append]
    refine ⟨proposerCount_of_gathered hbuild hgathered, hfew, hassigned, ?_, hunshifted, ⟨keys, hkeys, hlist⟩, ?_⟩
    · rw [← hassigned, ← (records_of_build hbuild).length_eq]
      exact schedule.assignedSlots_le
    · rw [hlist, List.length_map, ← List.length_map (f := some), ← hkeys, List.length_map, hslots]

/-- Both slots of a first epoch are reported, each for another validator. -/
def fullGenesis : List Duty := [⟨"0xaa", 7, 1⟩, ⟨"bb", 8, 0⟩]

/-- Three validators compete for one slot of a first epoch of two. -/
def crowdedGenesis : List Duty := [⟨"0xaa", 7, 1⟩, ⟨"bb", 8, 1⟩, ⟨"cc", 9, 1⟩]

/-- The keys stay in place for duties that fill the epoch, and are shifted for duties that contest a slot. -/
theorem fullGenesis_unshifted :
    (∃ schedule, ofDuties ⟨2, by decide⟩ 0 fullGenesis = .ok schedule ∧ schedule.proposerCount = 2 ∧
      schedule.needsSentinel = false ∧
      (Calendar.payload ⟨0, Span.ofSeconds 6⟩ schedule).keys.length = 2) ∧
    ∃ schedule, ofDuties ⟨2, by decide⟩ 0 crowdedGenesis = .ok schedule ∧ schedule.needsSentinel = true ∧
      ∃ one ∈ crowdedGenesis, ∃ two ∈ crowdedGenesis, one.slot = two.slot ∧ one.validator ≠ two.validator := by
  constructor
  · obtain ⟨assignments, schedule, hduties, hbuild⟩ :=
      exists_ofDuties ⟨2, by decide⟩ 0 fullGenesis (by decide) (by decide)
    have hschedule := ofDuties_eq_ok_iff.mpr ⟨assignments, hduties, hbuild⟩
    obtain ⟨hcount, _, _, _, hunshifted, _, hlength⟩ :=
      (distinct_duties_unshifted ⟨0, Span.ofSeconds 6⟩ hschedule).2 (by decide)
    refine ⟨schedule, hschedule, ?_, hunshifted, hlength⟩
    rw [hcount]
    exact (reports_of_duties hduties hbuild).count
  · obtain ⟨assignments, schedule, hduties, hbuild⟩ :=
      exists_ofDuties ⟨2, by decide⟩ 0 crowdedGenesis (by decide) (by decide)
    have hschedule := ofDuties_eq_ok_iff.mpr ⟨assignments, hduties, hbuild⟩
    have hneeds : schedule.needsSentinel = true := by
      obtain ⟨_, hepoch, hlength, _⟩ := eq_of_build hbuild
      unfold needsSentinel
      rw [hepoch, hlength, (reports_of_duties hduties hbuild).count]
      rfl
    exact ⟨schedule, hschedule, hneeds,
      (distinct_duties_unshifted ⟨0, Span.ofSeconds 6⟩ hschedule).1 hneeds⟩

end Schedule
end DutyRelay
