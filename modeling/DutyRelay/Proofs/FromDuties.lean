import Mathlib.Data.Finset.Card
import DutyRelay.Proofs.Gathering
import DutyRelay.Proofs.Reordering

/-!
# From duties to a schedule

Duties come one for each slot, are gathered by validator, and the schedule is built from what has been gathered. A
build gives a slot that several validators claim to the last of them; but the assignments stand in the order in
which the validators first appear, so that the slot goes to the latecomer among its claimants, whichever of them
was reported for it last. This file says what the schedule has for every slot and every validator, in terms of the
duties alone. If no slot is claimed by two validators and no validator comes with two keys, the order of the duties
does not matter at all.

## Contents
- `IsLatecomer`, `Gathered.isLatecomer`: who has a slot that several validators claim.
- `Schedule.ofDuties`, `exists_ofDuties`: the schedule of duties.
- `Schedule.Reports`, `reports_of_duties`: what the schedule has.
- `SingleOwned`, `SameKeyed`, `mem_of_reordered`, `ofDuties_perm`: other orders of the duties.
- `schedule_of_duties`: the whole account; `overlapping`: a slot that goes to the latecomer.
-/

namespace DutyRelay

/-! ## Places -/

section Places

variable {claims : List Claim} {slot : Slot} {validator rival : ValidatorIndex}
  {assignment : Assignment} {assignments : List Assignment}

/-- A validator that something is claimed for is known by its place. -/
theorem eq_of_firstPlace (hclaimed : ∃ claim ∈ claims, claim.validator = validator)
    (hsame : firstPlace claims validator = firstPlace claims rival) : validator = rival := by
  induction claims with
  | nil => simp at hclaimed
  | cons first rest ih =>
    by_cases hvalidator : validator = first.validator
    · by_cases hrival : rival = first.validator
      · rw [hvalidator, hrival]
      · rw [hvalidator, firstPlace_cons_self, firstPlace_cons_of_ne hrival] at hsame
        cases hsame
    · by_cases hrival : rival = first.validator
      · rw [hrival, firstPlace_cons_self, firstPlace_cons_of_ne hvalidator] at hsame
        cases hsame
      · rw [firstPlace_cons_of_ne hvalidator, firstPlace_cons_of_ne hrival] at hsame
        obtain ⟨claim, hclaim, rfl⟩ := hclaimed
        rcases List.mem_cons.mp hclaim with rfl | hlater
        · exact absurd rfl hvalidator
        · exact ih ⟨claim, hlater, rfl⟩ (Nat.succ.inj hsame)

/-- The validator claims the slot, and of all that do it is the one that appears last. -/
def IsLatecomer (claims : List Claim) (slot : Slot) (validator : ValidatorIndex) : Prop :=
  (⟨slot, validator⟩ : Claim) ∈ claims ∧
    ∀ rival ∈ claims, rival.slot = slot → firstPlace claims rival.validator ≤ firstPlace claims validator

instance (claims : List Claim) (slot : Slot) (validator : ValidatorIndex) :
    Decidable (IsLatecomer claims slot validator) := inferInstanceAs (Decidable (_ ∧ _))

theorem IsLatecomer.unique (h : IsLatecomer claims slot validator) (h' : IsLatecomer claims slot rival) :
    validator = rival :=
  eq_of_firstPlace ⟨_, h.1, rfl⟩ (Nat.le_antisymm (h'.2 _ h.1 rfl) (h.2 _ h'.1 rfl))

/-- A validator claims a slot exactly if its assignment lists it. -/
theorem Gathered.mem_claims_iff (h : Gathered claims assignments) :
    (⟨slot, validator⟩ : Claim) ∈ claims ↔
      ∃ assignment ∈ assignments, slot ∈ assignment.slots ∧ validator = assignment.validator := by
  rw [← h.claims.mem_iff, Schedule.mem_claimsOf]

/-- The last of several elements is in relation to all others. -/
theorem rel_getLast {α : Type} {R : α → α → Prop} {entries : List α} {last : α} (hordered : entries.Pairwise R)
    (hlast : entries.getLast? = some last) : ∀ entry ∈ entries, entry = last ∨ R entry last := by
  obtain ⟨others, rfl⟩ := List.getLast?_eq_some_iff.mp hlast
  intro entry hentry
  rcases List.mem_append.mp hentry with hother | hsame
  · exact Or.inr ((List.pairwise_append.mp hordered).2.2 entry hother last (List.mem_singleton_self last))
  · exact Or.inl (List.mem_singleton.mp hsame)

/-- **The last assignment that lists a slot is the latecomer's.** -/
theorem Gathered.isLatecomer (h : Gathered claims assignments)
    (hlast : Schedule.lastLister? assignments slot = some assignment) :
    IsLatecomer claims slot assignment.validator := by
  have hmem := List.mem_of_getLast? hlast
  obtain ⟨hassignment, hslot⟩ := List.mem_filter.mp hmem
  refine ⟨h.mem_claims_iff.mpr ⟨assignment, hassignment, of_decide_eq_true hslot, rfl⟩, ?_⟩
  intro rival hrival hsame
  have hclaim : (⟨slot, rival.validator⟩ : Claim) ∈ claims := hsame ▸ hrival
  obtain ⟨other, hother, hlisted, hvalidator⟩ := h.mem_claims_iff.mp hclaim
  rw [hvalidator]
  have hfiltered : other ∈ assignments.filter fun assignment => slot ∈ assignment.slots :=
    List.mem_filter.mpr ⟨hother, decide_eq_true hlisted⟩
  rcases rel_getLast (h.ordered.filter _) hlast other hfiltered with rfl | hlt
  · exact Nat.le_refl _
  · exact Nat.le_of_lt hlt

end Places

namespace Schedule

variable {length : EpochLength} {epoch : Epoch} {slot : Slot} {validator : ValidatorIndex}
  {duties reordered : List Duty} {assignments others : List Assignment} {assignment : Assignment}
  {schedule : Schedule}

/-- The schedule of an epoch from the duties reported for it. -/
def ofDuties (length : EpochLength) (epoch : Epoch) (duties : List Duty) : Outcome Schedule :=
  (assignmentsOfDuties duties).bind (build length epoch)

theorem ofDuties_eq_ok_iff :
    ofDuties length epoch duties = .ok schedule ↔
      ∃ assignments, assignmentsOfDuties duties = .ok assignments ∧
        build length epoch assignments = .ok schedule := by
  unfold ofDuties
  cases assignmentsOfDuties duties <;> simp [Except.bind]

/-- Duties whose keys can be read, all for slots of the epoch, amount to a schedule. -/
theorem exists_ofDuties (length : EpochLength) (epoch : Epoch) (duties : List Duty)
    (hreadable : ∀ duty ∈ duties, duty.IsReadable)
    (hinside : ∀ duty ∈ duties, length.epochOf duty.slot = epoch) :
    ∃ assignments schedule, assignmentsOfDuties duties = .ok assignments ∧
      build length epoch assignments = .ok schedule := by
  obtain ⟨assignments, hassignments⟩ := exists_assignments_iff.mpr hreadable
  have hgathered := gathered_of_duties hassignments
  have hslots : ∀ assignment ∈ assignments, ∀ slot ∈ assignment.slots, length.epochOf slot = epoch := by
    intro assignment hmem slot hslot
    have hclaim := hgathered.mem_claims_iff.mpr ⟨assignment, hmem, hslot, rfl⟩
    obtain ⟨duty, hduty, hsame⟩ := List.mem_map.mp hclaim
    have hreported : duty.slot = slot := congrArg Claim.slot hsame
    rw [← hreported]
    exact hinside duty hduty
  obtain ⟨schedule, hbuild, _⟩ := build_of_strayFault_none (strayFault?_eq_none_iff.mpr hslots)
  exact ⟨assignments, schedule, hassignments, hbuild⟩

/-! ## What the schedule has -/

/-- The schedule has each slot with the latecomer among those that claim it, each validator with the key of its
first duty, and a count of the validators. -/
structure Reports (duties : List Duty) (schedule : Schedule) : Prop where
  proposer : ∀ slot validator, schedule.proposer? slot = some validator ↔
    IsLatecomer (duties.map Duty.claim) slot validator
  vacant : ∀ slot, schedule.proposer? slot = none ↔ ∀ duty ∈ duties, duty.slot ≠ slot
  pubkey : ∀ validator, schedule.pubkey? validator =
    (duties.find? fun duty => duty.validator = validator).bind Duty.key?
  count : schedule.assignmentCount = (duties.map Duty.validator).toFinset.card

theorem proposer?_eq_some_iff_isLatecomer {claims : List Claim} (h : build length epoch assignments = .ok schedule)
    (hgathered : Gathered claims assignments) :
    schedule.proposer? slot = some validator ↔ IsLatecomer claims slot validator := by
  have hlatecomer : ∀ winner, schedule.proposer? slot = some winner → IsLatecomer claims slot winner := by
    intro winner hwinner
    rw [(records_of_build h).proposer, Option.map_eq_some_iff] at hwinner
    obtain ⟨assignment, hlast, rfl⟩ := hwinner
    exact hgathered.isLatecomer hlast
  refine ⟨hlatecomer validator, fun hlate => ?_⟩
  -- The slot is listed, so somebody has it, and there is only one latecomer.
  obtain ⟨assignment, hmem, hslot, _⟩ := hgathered.mem_claims_iff.mp hlate.1
  have hlisted : slot ∈ listedSlots assignments := mem_listedSlots.mpr ⟨assignment, hmem, hslot⟩
  obtain ⟨winner, hwinner⟩ := Option.isSome_iff_exists.mp (((records_of_build h).assigned slot).mpr hlisted)
  rw [hwinner, hlate.unique (hlatecomer winner hwinner)]

theorem proposer?_eq_none_iff_claims {claims : List Claim} (h : build length epoch assignments = .ok schedule)
    (hgathered : Gathered claims assignments) :
    schedule.proposer? slot = none ↔ ∀ claim ∈ claims, claim.slot ≠ slot := by
  rw [← Option.not_isSome_iff_eq_none, (records_of_build h).assigned, ← map_slot_claimsOf, List.mem_map]
  simp only [hgathered.claims.mem_iff, not_exists, not_and, ne_eq]

theorem pubkey?_eq_of_duties (h : build length epoch assignments = .ok schedule)
    (hgathered : Gathered (duties.map Duty.claim) assignments) (hkeys : KeyedByFirst duties assignments) :
    schedule.pubkey? validator = (duties.find? fun duty => duty.validator = validator).bind Duty.key? := by
  apply Option.ext
  intro key
  rw [pubkey?_eq_some_iff h (singleKeyed_of_nodup hgathered.distinct)]
  constructor
  · rintro ⟨assignment, hmem, rfl, rfl, _⟩
    exact hkeys assignment hmem
  · intro hkey
    obtain ⟨duty, hfirst, _⟩ := Option.bind_eq_some_iff.mp hkey
    obtain ⟨hduty, hvalidator⟩ := mem_of_first hfirst
    obtain ⟨assignment, hmem, rfl⟩ := (hgathered.covered validator).mpr
      ⟨duty.claim, List.mem_map_of_mem hduty, hvalidator⟩
    have hsame := Option.some.inj ((hkeys assignment hmem).symm.trans hkey)
    exact ⟨assignment, hmem, rfl, hsame, hgathered.nonempty assignment hmem⟩

/-- There are as many assignments as validators. -/
theorem length_of_gathered {claims : List Claim} (h : Gathered claims assignments) :
    assignments.length = (claims.map Claim.validator).toFinset.card := by
  have hsame : (assignments.map Assignment.validator).toFinset = (claims.map Claim.validator).toFinset := by
    ext validator
    simp only [List.mem_toFinset, List.mem_map]
    exact h.covered validator
  rw [← hsame, List.toFinset_card_of_nodup h.distinct, List.length_map]

theorem reports_of_duties (hduties : assignmentsOfDuties duties = .ok assignments)
    (h : build length epoch assignments = .ok schedule) : schedule.Reports duties := by
  have hgathered := gathered_of_duties hduties
  have hclaims : ∀ slot, (∀ claim ∈ duties.map Duty.claim, claim.slot ≠ slot) ↔
      ∀ duty ∈ duties, duty.slot ≠ slot := by
    intro slot
    rw [List.forall_mem_map]
    rfl
  have hvalidators : (duties.map Duty.claim).map Claim.validator = duties.map Duty.validator := by
    rw [List.map_map]
    rfl
  refine ⟨fun slot validator => proposer?_eq_some_iff_isLatecomer h hgathered, fun slot => ?_,
    fun validator => pubkey?_eq_of_duties h hgathered (keyedByFirst_of_duties hduties), ?_⟩
  · rw [proposer?_eq_none_iff_claims h hgathered, hclaims]
  · rw [(records_of_build h).count, length_of_gathered hgathered, hvalidators]

/-! ## Other orders of the duties -/

/-- No slot is reported for two validators. -/
def SingleOwned (duties : List Duty) : Prop :=
  ∀ one ∈ duties, ∀ two ∈ duties, one.slot = two.slot → one.validator = two.validator

/-- A validator comes with the same key in all of its duties. -/
def SameKeyed (duties : List Duty) : Prop :=
  ∀ one ∈ duties, ∀ two ∈ duties, one.validator = two.validator → one.key? = two.key?

instance (duties : List Duty) : Decidable (SingleOwned duties) :=
  inferInstanceAs (Decidable (∀ _ ∈ _, _))

instance (duties : List Duty) : Decidable (SameKeyed duties) :=
  inferInstanceAs (Decidable (∀ _ ∈ _, _))

theorem not_contested_of_singleOwned (h : SingleOwned duties)
    (hgathered : Gathered (duties.map Duty.claim) assignments) : ¬ Contested assignments slot := by
  rintro ⟨validator, rival, hne, hclaim, hrival⟩
  obtain ⟨one, hone, hsame⟩ := List.mem_map.mp (hgathered.claims.mem_iff.mp hclaim)
  obtain ⟨two, htwo, hsame'⟩ := List.mem_map.mp (hgathered.claims.mem_iff.mp hrival)
  have hslot : one.slot = two.slot := (congrArg Claim.slot hsame).trans (congrArg Claim.slot hsame').symm
  have hvalidator := h one hone two htwo hslot
  exact hne ((congrArg Claim.validator hsame).symm.trans (hvalidator.trans (congrArg Claim.validator hsame')))

/-- The slots of a validator are the same for every order of the claims. -/
theorem slots_eq_of_perm {claims claims' : List Claim} {other : Assignment} (hgathered : Gathered claims assignments)
    (hgathered' : Gathered claims' others) (hperm : claims.Perm claims') (hmem : assignment ∈ assignments)
    (hother : other ∈ others) (hvalidator : assignment.validator = other.validator) :
    assignment.slots = other.slots := by
  have hfor : (slotsFor claims assignment.validator).Perm (slotsFor claims' other.validator) := by
    rw [hvalidator]
    exact (hperm.filter _).map _
  have hslots : assignment.slots.Perm other.slots :=
    (hgathered.slots assignment hmem).trans (hfor.trans (hgathered'.slots other hother).symm)
  exact hslots.eq_of_pairwise (fun _ _ _ _ => Nat.le_antisymm) (hgathered.sorted assignment hmem)
    (hgathered'.sorted other hother)

/-- If a validator always comes with the same key, that is its key for every order of the duties. -/
theorem key_eq_of_perm {other : Assignment} (hkeys : KeyedByFirst duties assignments)
    (hkeys' : KeyedByFirst reordered others) (hperm : duties.Perm reordered) (hsame : SameKeyed duties)
    (hmem : assignment ∈ assignments) (hother : other ∈ others)
    (hvalidator : assignment.validator = other.validator) : assignment.key = other.key := by
  obtain ⟨duty, hfirst, hkey⟩ := Option.bind_eq_some_iff.mp (hkeys assignment hmem)
  obtain ⟨duty', hfirst', hkey'⟩ := Option.bind_eq_some_iff.mp (hkeys' other hother)
  obtain ⟨hduty, hof⟩ := mem_of_first hfirst
  obtain ⟨hduty', hof'⟩ := mem_of_first hfirst'
  have hread := hsame duty hduty duty' (hperm.mem_iff.mpr hduty') (by rw [hof, hof', hvalidator])
  rw [hkey, hkey'] at hread
  exact Option.some.inj hread

/-- With one key for each validator, its assignment is the same for every order of the duties. -/
theorem mem_of_reordered (hduties : assignmentsOfDuties duties = .ok assignments)
    (hreordered : assignmentsOfDuties reordered = .ok others) (hperm : duties.Perm reordered)
    (hsame : SameKeyed duties) (hmem : assignment ∈ assignments) : assignment ∈ others := by
  have hgathered := gathered_of_duties hduties
  have hgathered' := gathered_of_duties hreordered
  have hclaims : (duties.map Duty.claim).Perm (reordered.map Duty.claim) := hperm.map _
  obtain ⟨claim, hclaim, hvalidator⟩ := (hgathered.covered assignment.validator).mp ⟨assignment, hmem, rfl⟩
  obtain ⟨other, hother, hvalidator'⟩ := (hgathered'.covered assignment.validator).mpr
    ⟨claim, hclaims.mem_iff.mp hclaim, hvalidator⟩
  have hslots := slots_eq_of_perm hgathered hgathered' hclaims hmem hother hvalidator'.symm
  have hkey := key_eq_of_perm (keyedByFirst_of_duties hduties) (keyedByFirst_of_duties hreordered) hperm hsame
    hmem hother hvalidator'.symm
  have heq : assignment = other := by
    cases assignment
    cases other
    simp only [Assignment.mk.injEq]
    exact ⟨hvalidator'.symm, hkey, hslots⟩
  rw [heq]
  exact hother

theorem SameKeyed.perm (h : SameKeyed duties) (hperm : duties.Perm reordered) : SameKeyed reordered := by
  intro one hone two htwo
  exact h one (hperm.mem_iff.mpr hone) two (hperm.mem_iff.mpr htwo)

/-- The assignments of duties in another order are the same ones in another order. -/
theorem assignments_perm (hduties : assignmentsOfDuties duties = .ok assignments)
    (hreordered : assignmentsOfDuties reordered = .ok others) (hperm : duties.Perm reordered)
    (hsame : SameKeyed duties) : assignments.Perm others := by
  have hnodup := List.Nodup.of_map _ (gathered_of_duties hduties).distinct
  have hnodup' := List.Nodup.of_map _ (gathered_of_duties hreordered).distinct
  refine (List.perm_ext_iff_of_nodup hnodup hnodup').mpr fun assignment => ⟨?_, ?_⟩
  · exact mem_of_reordered hduties hreordered hperm hsame
  · exact mem_of_reordered hreordered hduties hperm.symm (hsame.perm hperm)

theorem ofDuties_perm (h : ofDuties length epoch duties = .ok schedule) (hperm : duties.Perm reordered)
    (howned : SingleOwned duties) (hsame : SameKeyed duties) :
    ofDuties length epoch reordered = .ok schedule := by
  obtain ⟨assignments, hduties, hbuild⟩ := ofDuties_eq_ok_iff.mp h
  have hreadable := exists_assignments_iff.mp ⟨assignments, hduties⟩
  obtain ⟨others, hreordered⟩ := exists_assignments_iff.mpr fun duty hduty =>
    hreadable duty (hperm.mem_iff.mpr hduty)
  have hgathered := gathered_of_duties hduties
  refine ofDuties_eq_ok_iff.mpr ⟨others, hreordered, ?_⟩
  exact build_perm hbuild (assignments_perm hduties hreordered hperm hsame)
    (fun slot => not_contested_of_singleOwned howned hgathered) (singleKeyed_of_nodup hgathered.distinct)

/-- **From duties to a schedule.** Duties whose keys can be read, all for slots of the epoch, amount to a schedule:
a slot goes to the latecomer among the validators with a duty for it, a validator has the key of its first duty,
and there are as many assignments as validators. If no slot is reported for two validators, and every validator
always comes with the same key, the schedule is the same for every order of the duties. -/
theorem schedule_of_duties (length : EpochLength) (epoch : Epoch) (duties : List Duty)
    (hreadable : ∀ duty ∈ duties, duty.IsReadable)
    (hinside : ∀ duty ∈ duties, length.epochOf duty.slot = epoch) :
    ∃ schedule, ofDuties length epoch duties = .ok schedule ∧ schedule.Reports duties ∧
      (SingleOwned duties → SameKeyed duties →
        ∀ reordered, duties.Perm reordered → ofDuties length epoch reordered = .ok schedule) := by
  obtain ⟨assignments, schedule, hduties, hbuild⟩ :=
    exists_ofDuties length epoch duties hreadable hinside
  have hschedule : ofDuties length epoch duties = .ok schedule :=
    ofDuties_eq_ok_iff.mpr ⟨assignments, hduties, hbuild⟩
  refine ⟨schedule, hschedule, reports_of_duties hduties hbuild, ?_⟩
  intro howned hsame reordered hperm
  exact ofDuties_perm hschedule hperm howned hsame

/-- Slot 8 is reported for both validators, for the first one of them last. -/
def overlapping : List Duty := [⟨"0xaa", 1, 9⟩, ⟨"0xbb", 2, 8⟩, ⟨"0xcc", 1, 8⟩]

/-- Two validators, each with slots of its own and with one key, in different letters. -/
def agreed : List Duty := [⟨"0xAA", 1, 9⟩, ⟨"bb", 2, 8⟩, ⟨"aa", 1, 10⟩]

/-- The contested slot goes to the latecomer, and the first key stays; and duties that agree may come in any order. -/
theorem overlapping_scheduled :
    (∃ schedule, ofDuties ⟨4, by decide⟩ 2 overlapping = .ok schedule ∧ schedule.proposer? 8 = some 2 ∧
      schedule.pubkey? 1 = some ⟨[0xaa]⟩ ∧ schedule.assignmentCount = 2) ∧
    ∃ schedule, ofDuties ⟨4, by decide⟩ 2 agreed = .ok schedule ∧
      ofDuties ⟨4, by decide⟩ 2 agreed.reverse = .ok schedule := by
  constructor
  · obtain ⟨schedule, hschedule, hreports, _⟩ :=
      schedule_of_duties ⟨4, by decide⟩ 2 overlapping (by decide) (by decide)
    refine ⟨schedule, hschedule, (hreports.proposer 8 2).mpr (by decide), ?_, hreports.count⟩
    rw [hreports.pubkey]
    decide
  · obtain ⟨schedule, hschedule, _, horder⟩ :=
      schedule_of_duties ⟨4, by decide⟩ 2 agreed (by decide) (by decide)
    exact ⟨schedule, hschedule, horder (by decide) (by decide) _ (List.reverse_perm agreed).symm⟩

end Schedule
end DutyRelay
