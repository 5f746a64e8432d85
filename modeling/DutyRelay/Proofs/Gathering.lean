import Mathlib.Data.List.Count
import Mathlib.Data.List.Forall2
import DutyRelay.Beacon
import DutyRelay.Proofs.KeyText
import DutyRelay.Proofs.Window

/-!
# Duties gathered by validator

The beacon node reports one duty for each slot, and the duties of one validator may stand anywhere in the list. A
pass over the list collects the slots of each validator in a map, and another one takes down its first duty. Both
have to speak of the same validators, or an assignment would lack its slots. This file says what comes out in the
end: the claims of the duties, each as often as before, with one assignment for every validator; or else a failure
that names the first duty with a key that cannot be read, be it the first of its validator or not.

## Contents
- `Duty.key?`, `Duty.IsReadable`, `Duty.exists_keyed_iff`: duties with and without a key that can be read.
- `mapM_eq_ok_iff`, `mapM_eq_error_iff`, `FirstUnreadable`, `Keyed`: reading them one after another.
- `firstPlace`, `slotsFor`: what the claims of duties say about a validator.
- `getD_slotsByValidator`, `mem_firstDuties`, `firstDuties_ordered`: the two passes.
- `Gathered`, `KeyedByFirst`, `mem_gather`, `claimsOf_perm`: the assignments.
- `duties_gathered`: the whole account; `scattered`: duties of two validators in turn.
-/

namespace DutyRelay

/-! ## Keys of duties -/

/-- What a duty claims. -/
def Duty.claim (duty : Duty) : Claim := ⟨duty.slot, duty.validator⟩

/-- What a duty claims whose key has been read. -/
def KeyedDuty.claim (duty : KeyedDuty) : Claim := ⟨duty.slot, duty.validator⟩

/-- The key of a duty, if it can be read. -/
def Duty.key? (duty : Duty) : Option PublicKey := (PublicKey.ofText duty.pubkey).toOption

/-- The key of the duty can be read. -/
def Duty.IsReadable (duty : Duty) : Prop := Hex.IsPaired (Hex.withoutMark duty.pubkey.toList)

instance : DecidablePred Duty.IsReadable := fun _ => inferInstanceAs (Decidable (Hex.IsPaired _))

/-- The failure to read the key of a duty. -/
def Duty.refusal (duty : Duty) (fault : Hex.Fault) : Failure :=
  .decode (s!"public key of validator {duty.validator}: " ++ fault.message)

theorem Duty.keyed_eq_ok_iff {duty : Duty} {keyed : KeyedDuty} :
    duty.keyed = .ok keyed ↔ duty.key? = some keyed.key ∧ keyed.claim = duty.claim := by
  unfold Duty.keyed Duty.key?
  cases hkey : PublicKey.ofText duty.pubkey with
  | error fault => simp [Except.toOption]
  | ok key =>
    obtain ⟨key', validator, slot⟩ := keyed
    simp only [Except.ok.injEq, KeyedDuty.mk.injEq, KeyedDuty.claim, Duty.claim, Claim.mk.injEq,
      Except.toOption, Option.some.injEq]
    constructor
    · rintro ⟨rfl, rfl, rfl⟩
      exact ⟨rfl, rfl, rfl⟩
    · rintro ⟨rfl, rfl, rfl⟩
      exact ⟨rfl, rfl, rfl⟩

theorem Duty.keyed_eq_error_iff {duty : Duty} {failure : Failure} :
    duty.keyed = .error failure ↔
      ∃ fault, PublicKey.ofText duty.pubkey = .error fault ∧ failure = duty.refusal fault := by
  unfold Duty.keyed
  cases hkey : PublicKey.ofText duty.pubkey with
  | ok key => simp
  | error fault => simp [Duty.refusal, eq_comm]

theorem Duty.exists_keyed_iff {duty : Duty} : (∃ keyed, duty.keyed = .ok keyed) ↔ duty.IsReadable := by
  unfold Duty.IsReadable Duty.keyed
  rw [← PublicKey.exists_ofText_iff]
  cases PublicKey.ofText duty.pubkey <;> simp

/-! ## One after another -/

section MapM

variable {α β ε : Type} {f : α → Except ε β} {entries rest : List α} {values : List β} {entry : α}
  {value : β} {fault : ε}

theorem mapM_cons_of_ok (h : f entry = .ok value) :
    (entry :: rest).mapM f = (rest.mapM f).map (value :: ·) := by
  rw [List.mapM_cons, h]
  rfl

theorem mapM_cons_of_error (h : f entry = .error fault) : (entry :: rest).mapM f = .error fault := by
  rw [List.mapM_cons, h]
  rfl

/-- Either every entry has a value, and all come out, -/
theorem mapM_eq_ok_iff :
    entries.mapM f = .ok values ↔ List.Forall₂ (fun entry value => f entry = .ok value) entries values := by
  induction entries generalizing values with
  | nil => simp [pure, Except.pure, eq_comm]
  | cons entry rest ih =>
    rw [List.forall₂_cons_left_iff]
    cases hentry : f entry with
    | error fault => simp [mapM_cons_of_error hentry]
    | ok value =>
      rw [mapM_cons_of_ok hentry]
      cases hrest : rest.mapM f with
      | error fault => simp [Except.map, ← ih, hrest]
      | ok others => simp [Except.map, ← ih, hrest, eq_comm]

/-- or the first one without a value is what fails. -/
theorem mapM_eq_error_iff :
    entries.mapM f = .error fault ↔ ∃ before entry after, entries = before ++ entry :: after ∧
      (∀ earlier ∈ before, ∃ value, f earlier = .ok value) ∧ f entry = .error fault := by
  induction entries with
  | nil => simp [pure, Except.pure]
  | cons first rest ih =>
    constructor
    · intro h
      cases hfirst : f first with
      | error fault' =>
        obtain rfl := Except.error.inj ((mapM_cons_of_error hfirst).symm.trans h)
        exact ⟨[], first, rest, rfl, by simp, hfirst⟩
      | ok value =>
        rw [mapM_cons_of_ok hfirst] at h
        have hrest : rest.mapM f = .error fault := by
          cases hrest : rest.mapM f <;> simp_all [Except.map]
        obtain ⟨before, entry, after, rfl, hbefore, hentry⟩ := ih.mp hrest
        exact ⟨first :: before, entry, after, rfl,
          List.forall_mem_cons.mpr ⟨⟨value, hfirst⟩, hbefore⟩, hentry⟩
    · rintro ⟨before, entry, after, hsplit, hbefore, hentry⟩
      cases before with
      | nil =>
        obtain ⟨rfl, rfl⟩ := List.cons.inj hsplit
        exact mapM_cons_of_error hentry
      | cons _ before =>
        obtain ⟨rfl, rfl⟩ := List.cons.inj hsplit
        obtain ⟨⟨value, hfirst⟩, hbefore⟩ := List.forall_mem_cons.mp hbefore
        rw [mapM_cons_of_ok hfirst, ih.mpr ⟨before, entry, after, rfl, hbefore, hentry⟩]
        rfl

end MapM

/-- The key of the duty cannot be read, and those of all duties before it can. -/
def FirstUnreadable (duties : List Duty) (duty : Duty) (fault : Hex.Fault) : Prop :=
  ∃ before after, duties = before ++ duty :: after ∧ (∀ earlier ∈ before, earlier.IsReadable) ∧
    PublicKey.ofText duty.pubkey = .error fault

/-- The duties with their keys, one by one. -/
def Keyed (duties : List Duty) (keyed : List KeyedDuty) : Prop :=
  List.Forall₂ (fun duty keyed => duty.keyed = .ok keyed) duties keyed

section Reading

variable {duties : List Duty} {keyed : List KeyedDuty} {assignments : List Assignment} {failure : Failure}
  {validator : ValidatorIndex}

/-- **Duties are refused for the first key that cannot be read.** -/
theorem assignmentsOfDuties_eq_error_iff :
    assignmentsOfDuties duties = .error failure ↔
      ∃ duty fault, FirstUnreadable duties duty fault ∧ failure = duty.refusal fault := by
  have hread : assignmentsOfDuties duties = .error failure ↔ duties.mapM Duty.keyed = .error failure := by
    unfold assignmentsOfDuties
    cases duties.mapM Duty.keyed <;> simp [Except.map]
  rw [hread, mapM_eq_error_iff]
  simp only [Duty.exists_keyed_iff, Duty.keyed_eq_error_iff, FirstUnreadable]
  constructor
  · rintro ⟨before, duty, after, hsplit, hbefore, fault, hfault, hfailure⟩
    exact ⟨duty, fault, ⟨before, after, hsplit, hbefore, hfault⟩, hfailure⟩
  · rintro ⟨duty, fault, ⟨before, after, hsplit, hbefore, hfault⟩, hfailure⟩
    exact ⟨before, duty, after, hsplit, hbefore, fault, hfault, hfailure⟩

theorem assignmentsOfDuties_eq_ok_iff :
    assignmentsOfDuties duties = .ok assignments ↔ ∃ keyed, Keyed duties keyed ∧ gather keyed = assignments := by
  unfold assignmentsOfDuties Keyed
  simp only [← mapM_eq_ok_iff]
  cases duties.mapM Duty.keyed <;> simp [Except.map]

/-- All duties have a key that can be read, or none of them comes out. -/
theorem exists_keyed_iff : (∃ keyed, Keyed duties keyed) ↔ ∀ duty ∈ duties, duty.IsReadable := by
  unfold Keyed
  induction duties with
  | nil => simp
  | cons duty rest ih =>
    rw [List.forall_mem_cons, ← ih, ← Duty.exists_keyed_iff]
    simp only [List.forall₂_cons_left_iff]
    constructor
    · rintro ⟨_, keyed, others, hkeyed, hothers, rfl⟩
      exact ⟨⟨keyed, hkeyed⟩, others, hothers⟩
    · rintro ⟨⟨keyed, hkeyed⟩, others, hothers⟩
      exact ⟨keyed :: others, keyed, others, hkeyed, hothers, rfl⟩

/-- Duties are refused for nothing but a key that cannot be read. -/
theorem exists_assignments_iff :
    (∃ assignments, assignmentsOfDuties duties = .ok assignments) ↔ ∀ duty ∈ duties, duty.IsReadable := by
  rw [← exists_keyed_iff]
  simp only [assignmentsOfDuties_eq_ok_iff]
  constructor
  · rintro ⟨_, keyed, hkeyed, _⟩
    exact ⟨keyed, hkeyed⟩
  · rintro ⟨keyed, hkeyed⟩
    exact ⟨gather keyed, keyed, hkeyed, rfl⟩

/-- Reading the keys leaves the claims as they are. -/
theorem Keyed.map_claim (h : Keyed duties keyed) :
    keyed.map KeyedDuty.claim = duties.map Duty.claim := by
  induction h with
  | nil => rfl
  | cons hduty _ ih => rw [List.map_cons, List.map_cons, ih, (Duty.keyed_eq_ok_iff.mp hduty).2]

/-- The first duty of a validator stays its first one. -/
theorem Keyed.find?_eq_some (h : Keyed duties keyed) {found : KeyedDuty}
    (hfound : keyed.find? (fun duty => duty.validator = validator) = some found) :
    (duties.find? fun duty => duty.validator = validator).bind Duty.key? = some found.key := by
  induction h with
  | nil => cases hfound
  | @cons duty first rest others hduty _ ih =>
    obtain ⟨hkey, hclaim⟩ := Duty.keyed_eq_ok_iff.mp hduty
    have hsame : first.validator = duty.validator := congrArg Claim.validator hclaim
    rw [List.find?_cons] at hfound ⊢
    by_cases hvalidator : duty.validator = validator
    · simp only [hsame, hvalidator, decide_true, Option.some.injEq, Option.bind_some] at hfound ⊢
      exact hfound ▸ hkey
    · simp only [hsame, hvalidator, decide_false] at hfound ⊢
      exact ih hfound

end Reading

/-! ## What claims say about a validator -/

/-- How many claims come before the first one for a validator. -/
def firstPlace (claims : List Claim) (validator : ValidatorIndex) : Nat :=
  claims.findIdx fun claim => claim.validator = validator

/-- The slots that are claimed for a validator, in order and each as often as it comes. -/
def slotsFor (claims : List Claim) (validator : ValidatorIndex) : List Slot :=
  (claims.filter fun claim => claim.validator = validator).map Claim.slot

section Claims

variable {claims : List Claim} {claim : Claim} {slot : Slot} {validator : ValidatorIndex}
  {assignment : Assignment} {assignments : List Assignment}

/-- The first duty of a validator is one of its duties. -/
theorem mem_of_first {Report : Type} {of : Report → ValidatorIndex} {reports : List Report} {first : Report}
    (h : reports.find? (fun report => of report = validator) = some first) :
    first ∈ reports ∧ of first = validator := by
  have hfits := List.find?_some h
  exact ⟨List.mem_of_find?_eq_some h, by simpa using hfits⟩

theorem firstPlace_cons_self : firstPlace (claim :: claims) claim.validator = 0 := by
  unfold firstPlace
  rw [List.findIdx_cons, decide_eq_true rfl, cond_true]

theorem firstPlace_cons_of_ne (h : validator ≠ claim.validator) :
    firstPlace (claim :: claims) validator = firstPlace claims validator + 1 := by
  unfold firstPlace
  rw [List.findIdx_cons, decide_eq_false h.symm, cond_false]

theorem slotsFor_cons :
    slotsFor (claim :: claims) validator =
      if claim.validator = validator then claim.slot :: slotsFor claims validator
      else slotsFor claims validator := by
  unfold slotsFor
  rw [List.filter_cons]
  by_cases hvalidator : claim.validator = validator <;> simp [hvalidator]

theorem slotsFor_eq_nil_iff :
    slotsFor claims validator = [] ↔ ∀ claim ∈ claims, claim.validator ≠ validator := by
  unfold slotsFor
  rw [List.map_eq_nil_iff, List.filter_eq_nil_iff]
  simp only [decide_eq_true_eq, ne_eq]

theorem count_slotsFor :
    (slotsFor claims validator).count slot = claims.count ⟨slot, validator⟩ := by
  induction claims with
  | nil => rfl
  | cons claim rest ih =>
    rw [slotsFor_cons, List.count_cons, ← ih]
    obtain ⟨slot', validator'⟩ := claim
    by_cases hvalidator : validator' = validator
    · simp [hvalidator, List.count_cons]
    · simp [hvalidator]

/-- If no validator has two assignments, a claim is made as often as its assignment lists the slot. -/
theorem count_claimsOf (hdistinct : (assignments.map Assignment.validator).Nodup)
    (hmem : assignment ∈ assignments) :
    (claimsOf assignments).count ⟨slot, assignment.validator⟩ = assignment.slots.count slot := by
  induction assignments with
  | nil => cases hmem
  | cons first rest ih =>
    obtain ⟨hfirst, hrest⟩ := List.nodup_cons.mp hdistinct
    have hclaims : claimsOf (first :: rest) = first.claims ++ claimsOf rest := rfl
    rw [hclaims, List.count_append]
    rcases List.mem_cons.mp hmem with rfl | hlater
    · have hown : assignment.claims.count ⟨slot, assignment.validator⟩ = assignment.slots.count slot :=
        List.count_map_of_injective assignment.slots (fun slot => (⟨slot, assignment.validator⟩ : Claim))
          (fun _ _ hsame => congrArg Claim.slot hsame) slot
      have hother : (claimsOf rest).count ⟨slot, assignment.validator⟩ = 0 := by
        rw [List.count_eq_zero, Schedule.mem_claimsOf]
        rintro ⟨later, hlater, _, hvalidator⟩
        exact hfirst (List.mem_map.mpr ⟨later, hlater, hvalidator.symm⟩)
      rw [hown, hother, Nat.add_zero]
    · have hother : first.claims.count ⟨slot, assignment.validator⟩ = 0 := by
        rw [List.count_eq_zero]
        rintro hclaim
        obtain ⟨_, _, hsame⟩ := List.mem_map.mp hclaim
        exact hfirst (List.mem_map.mpr ⟨assignment, hlater, (congrArg Claim.validator hsame).symm⟩)
      rw [hother, ih hrest hlater, Nat.zero_add]

end Claims

/-! ## The two passes over the duties -/

section Passes

variable {duties : List KeyedDuty} {duty : KeyedDuty} {met : Std.ExtTreeMap ValidatorIndex Unit}
  {validator : ValidatorIndex} {assignment : Assignment}

/-- The first pass finds the slots of every validator. -/
theorem getD_slotsByValidator :
    (slotsByValidator duties).getD validator [] =
      (slotsFor (duties.map KeyedDuty.claim) validator).reverse := by
  unfold slotsByValidator
  suffices h : ∀ found : Std.ExtTreeMap ValidatorIndex (List Slot),
      (duties.foldl (fun found duty =>
          found.insert duty.validator (duty.slot :: found.getD duty.validator [])) found).getD validator [] =
        (slotsFor (duties.map KeyedDuty.claim) validator).reverse ++ found.getD validator [] by
    rw [h ∅, Std.ExtTreeMap.getD_empty, List.append_nil]
  induction duties with
  | nil => exact fun _ => rfl
  | cons duty rest ih =>
    intro found
    rw [List.foldl_cons, ih, List.map_cons, slotsFor_cons, Std.ExtTreeMap.getD_insert]
    have hclaim : duty.claim.validator = duty.validator := rfl
    by_cases hvalidator : duty.validator = validator
    · rw [if_pos (Std.LawfulEqCmp.compare_eq_iff_eq.mpr hvalidator), hclaim, if_pos hvalidator,
        hvalidator, List.reverse_cons, List.append_assoc]
      rfl
    · rw [if_neg fun heq => hvalidator (Std.LawfulEqCmp.compare_eq_iff_eq.mp heq), hclaim,
        if_neg hvalidator]

/-- The second pass takes down the first duty of every validator that has not been met before. -/
theorem mem_firstDuties :
    duty ∈ firstDuties met duties ↔
      duty.validator ∉ met ∧ duties.find? (fun other => other.validator = duty.validator) = some duty := by
  induction duties generalizing met with
  | nil => simp [firstDuties]
  | cons first rest ih =>
    unfold firstDuties
    rw [List.find?_cons]
    by_cases hmet : first.validator ∈ met
    · rw [if_pos hmet, ih]
      by_cases hsame : first.validator = duty.validator
      · rw [hsame] at hmet
        exact ⟨fun h => absurd hmet h.1, fun h => absurd hmet h.1⟩
      · rw [decide_eq_false hsame]
    · rw [if_neg hmet, List.mem_cons, ih, Std.ExtTreeMap.mem_insert, Std.LawfulEqCmp.compare_eq_iff_eq]
      by_cases hsame : first.validator = duty.validator
      · simp only [hsame, decide_true, Option.some.injEq, true_or, not_true_eq_false, false_and, or_false]
        rw [hsame] at hmet
        exact ⟨fun heq => ⟨hmet, heq.symm⟩, fun h => h.2.symm⟩
      · have hne : duty ≠ first := fun heq => hsame (congrArg KeyedDuty.validator heq).symm
        simp only [hsame, hne, decide_false, false_or]

/-- Whoever is taken down behind a validator that has been met is another one, and its place is one further. -/
theorem firstPlace_of_mem_firstDuties {first : KeyedDuty} (hmet : first.validator ∈ met)
    (hduty : duty ∈ firstDuties met duties) :
    firstPlace ((first :: duties).map KeyedDuty.claim) duty.validator =
      firstPlace (duties.map KeyedDuty.claim) duty.validator + 1 := by
  rw [List.map_cons]
  apply firstPlace_cons_of_ne
  rintro hsame
  exact (mem_firstDuties.mp hduty).1 (hsame ▸ hmet)

/-- The duties are taken down in the order in which their validators appear. -/
theorem firstDuties_ordered :
    (firstDuties met duties).Pairwise fun one two =>
      firstPlace (duties.map KeyedDuty.claim) one.validator <
        firstPlace (duties.map KeyedDuty.claim) two.validator := by
  induction duties generalizing met with
  | nil => exact .nil
  | cons first rest ih =>
    have hlater : ∀ met : Std.ExtTreeMap ValidatorIndex Unit, first.validator ∈ met →
        (firstDuties met rest).Pairwise fun one two =>
          firstPlace ((first :: rest).map KeyedDuty.claim) one.validator <
            firstPlace ((first :: rest).map KeyedDuty.claim) two.validator := by
      intro met hmet
      refine ih.imp_of_mem fun {one two} hone htwo hlt => ?_
      rw [firstPlace_of_mem_firstDuties hmet hone, firstPlace_of_mem_firstDuties hmet htwo]
      exact Nat.succ_lt_succ hlt
    unfold firstDuties
    by_cases hmet : first.validator ∈ met
    · rw [if_pos hmet]
      exact hlater met hmet
    · have hnow : first.validator ∈ met.insert first.validator () := Std.ExtTreeMap.mem_insert_self
      rw [if_neg hmet, List.pairwise_cons]
      refine ⟨fun duty hduty => ?_, hlater _ hnow⟩
      have hfirst : firstPlace ((first :: rest).map KeyedDuty.claim) first.validator = 0 :=
        firstPlace_cons_self
      rw [hfirst, firstPlace_of_mem_firstDuties hnow hduty]
      exact Nat.succ_pos _

end Passes

/-! ## The assignments -/

/-- The assignments are made of the claims: one for every validator that something is claimed for, in the order of
the first claims, with the slots that are claimed for it and no others, each as often as it is claimed. -/
structure Gathered (claims : List Claim) (assignments : List Assignment) : Prop where
  covered : ∀ validator, (∃ assignment ∈ assignments, assignment.validator = validator) ↔
    ∃ claim ∈ claims, claim.validator = validator
  distinct : (assignments.map Assignment.validator).Nodup
  ordered : assignments.Pairwise fun one two =>
    firstPlace claims one.validator < firstPlace claims two.validator
  nonempty : ∀ assignment ∈ assignments, assignment.slots ≠ []
  sorted : ∀ assignment ∈ assignments, assignment.slots.Pairwise (· ≤ ·)
  slots : ∀ assignment ∈ assignments, assignment.slots.Perm (slotsFor claims assignment.validator)
  /-- All assignments together claim what was claimed. -/
  claims : (claimsOf assignments).Perm claims

/-- Every assignment has the key of the first duty of its validator. -/
def KeyedByFirst (duties : List Duty) (assignments : List Assignment) : Prop :=
  ∀ assignment ∈ assignments,
    (duties.find? fun duty => duty.validator = assignment.validator).bind Duty.key? = some assignment.key

section Assignments

variable {duties : List KeyedDuty} {validator : ValidatorIndex} {assignment : Assignment}
  {claims : List Claim} {assignments : List Assignment}

theorem mem_gather :
    assignment ∈ gather duties ↔
      ∃ duty, duties.find? (fun other => other.validator = assignment.validator) = some duty ∧
        assignment.key = duty.key ∧
        assignment.slots = (slotsFor (duties.map KeyedDuty.claim) assignment.validator).reverse.mergeSort := by
  unfold gather
  rw [List.mem_map]
  simp only [mem_firstDuties, getD_slotsByValidator, Std.ExtTreeMap.not_mem_empty, not_false_eq_true, true_and]
  constructor
  · rintro ⟨duty, hfirst, rfl⟩
    exact ⟨duty, hfirst, rfl, rfl⟩
  · rintro ⟨duty, hfirst, hkey, hslots⟩
    obtain ⟨_, hvalidator⟩ := mem_of_first hfirst
    refine ⟨duty, hvalidator ▸ hfirst, ?_⟩
    rw [hvalidator, ← hkey, ← hslots]

theorem slots_perm_of_mem_gather (h : assignment ∈ gather duties) :
    assignment.slots.Perm (slotsFor (duties.map KeyedDuty.claim) assignment.validator) := by
  obtain ⟨_, _, _, hslots⟩ := mem_gather.mp h
  rw [hslots]
  exact (List.mergeSort_perm _ _).trans (List.reverse_perm _)

theorem slots_sorted_of_mem_gather (h : assignment ∈ gather duties) : assignment.slots.Pairwise (· ≤ ·) := by
  obtain ⟨_, _, _, hslots⟩ := mem_gather.mp h
  rw [hslots]
  have htrans : ∀ a b c : Slot, decide (a ≤ b) = true → decide (b ≤ c) = true → decide (a ≤ c) = true := by
    intro a b c hab hbc
    exact decide_eq_true (Nat.le_trans (of_decide_eq_true hab) (of_decide_eq_true hbc))
  have htotal : ∀ a b : Slot, (decide (a ≤ b) || decide (b ≤ a)) = true := by
    intro a b
    simpa using Nat.le_total a b
  exact (List.pairwise_mergeSort htrans htotal _).imp of_decide_eq_true

/-- Whoever has a duty has an assignment. -/
theorem exists_mem_gather_iff :
    (∃ assignment ∈ gather duties, assignment.validator = validator) ↔
      ∃ claim ∈ duties.map KeyedDuty.claim, claim.validator = validator := by
  constructor
  · rintro ⟨assignment, hmem, rfl⟩
    obtain ⟨duty, hfirst, _⟩ := mem_gather.mp hmem
    obtain ⟨hduty, hvalidator⟩ := mem_of_first hfirst
    exact ⟨duty.claim, List.mem_map_of_mem hduty, hvalidator⟩
  · rintro ⟨_, hclaim, rfl⟩
    obtain ⟨duty, hduty, rfl⟩ := List.mem_map.mp hclaim
    have hsome : (duties.find? fun other => other.validator = duty.claim.validator).isSome = true :=
      List.find?_isSome.mpr ⟨duty, hduty, by simp [KeyedDuty.claim]⟩
    obtain ⟨first, hfirst⟩ := Option.isSome_iff_exists.mp hsome
    exact ⟨⟨duty.claim.validator, first.key,
      (slotsFor (duties.map KeyedDuty.claim) duty.claim.validator).reverse.mergeSort⟩,
      mem_gather.mpr ⟨first, hfirst, rfl, rfl⟩, rfl⟩

theorem gather_ordered :
    (gather duties).Pairwise fun one two =>
      firstPlace (duties.map KeyedDuty.claim) one.validator <
        firstPlace (duties.map KeyedDuty.claim) two.validator :=
  List.pairwise_map.mpr firstDuties_ordered

/-- **Gathering loses no claim and makes none up.** -/
theorem claimsOf_perm (hdistinct : (assignments.map Assignment.validator).Nodup)
    (hcovered : ∀ validator, (∃ assignment ∈ assignments, assignment.validator = validator) ↔
      ∃ claim ∈ claims, claim.validator = validator)
    (hslots : ∀ assignment ∈ assignments, assignment.slots.Perm (slotsFor claims assignment.validator)) :
    (claimsOf assignments).Perm claims := by
  rw [List.perm_iff_count]
  rintro ⟨slot, validator⟩
  by_cases hsome : ∃ assignment ∈ assignments, assignment.validator = validator
  · obtain ⟨assignment, hmem, rfl⟩ := hsome
    rw [count_claimsOf hdistinct hmem, (hslots assignment hmem).count_eq, count_slotsFor]
  · have hnone : (⟨slot, validator⟩ : Claim) ∉ claims :=
      fun hclaim => hsome ((hcovered validator).mpr ⟨_, hclaim, rfl⟩)
    have hnone' : (⟨slot, validator⟩ : Claim) ∉ claimsOf assignments := by
      rw [Schedule.mem_claimsOf]
      rintro ⟨assignment, hmem, _, hvalidator⟩
      exact hsome ⟨assignment, hmem, hvalidator.symm⟩
    rw [List.count_eq_zero.mpr hnone, List.count_eq_zero.mpr hnone']

theorem gathered_gather (duties : List KeyedDuty) :
    Gathered (duties.map KeyedDuty.claim) (gather duties) := by
  have hdistinct : ((gather duties).map Assignment.validator).Nodup := by
    refine List.pairwise_map.mpr (gather_ordered.imp fun {one two} hlt hsame => ?_)
    rw [hsame] at hlt
    exact Nat.lt_irrefl _ hlt
  refine ⟨fun validator => exists_mem_gather_iff, hdistinct, gather_ordered, ?_,
    fun assignment => slots_sorted_of_mem_gather, fun assignment => slots_perm_of_mem_gather,
    claimsOf_perm hdistinct (fun validator => exists_mem_gather_iff)
      fun assignment => slots_perm_of_mem_gather⟩
  intro assignment hmem hnone
  have hslots := slots_perm_of_mem_gather hmem
  rw [hnone, List.nil_perm, slotsFor_eq_nil_iff] at hslots
  obtain ⟨claim, hclaim, hvalidator⟩ := exists_mem_gather_iff.mp ⟨assignment, hmem, rfl⟩
  exact hslots claim hclaim hvalidator

end Assignments

section Duties

variable {duties : List Duty} {keyed : List KeyedDuty} {assignments : List Assignment}

theorem gathered_of_duties (h : assignmentsOfDuties duties = .ok assignments) :
    Gathered (duties.map Duty.claim) assignments := by
  obtain ⟨keyed, hkeyed, rfl⟩ := assignmentsOfDuties_eq_ok_iff.mp h
  rw [← hkeyed.map_claim]
  exact gathered_gather keyed

theorem keyedByFirst_of_duties (h : assignmentsOfDuties duties = .ok assignments) :
    KeyedByFirst duties assignments := by
  obtain ⟨keyed, hkeyed, rfl⟩ := assignmentsOfDuties_eq_ok_iff.mp h
  intro assignment hmem
  obtain ⟨first, hfirst, hkey, _⟩ := mem_gather.mp hmem
  rw [hkey]
  exact hkeyed.find?_eq_some hfirst

/-- **What becomes of duties.** They are refused exactly if some key cannot be read, and then for the first such
duty, whatever keys its validator has come with before. Otherwise they are gathered into assignments, which lose
no claim and make none up, each with the key of the first duty of its validator. -/
theorem duties_gathered (duties : List Duty) :
    ((∃ failure, assignmentsOfDuties duties = .error failure) ↔ ∃ duty ∈ duties, ¬ duty.IsReadable) ∧
    (∀ failure, assignmentsOfDuties duties = .error failure ↔
      ∃ duty fault, FirstUnreadable duties duty fault ∧
        failure = .decode (s!"public key of validator {duty.validator}: " ++ fault.message)) ∧
    ((∀ duty ∈ duties, duty.IsReadable) → ∃ assignments, assignmentsOfDuties duties = .ok assignments ∧
      Gathered (duties.map Duty.claim) assignments ∧ KeyedByFirst duties assignments) := by
  refine ⟨?_, fun failure => assignmentsOfDuties_eq_error_iff, ?_⟩
  · have hok : (∃ assignments, assignmentsOfDuties duties = .ok assignments) ↔
        ∀ duty ∈ duties, duty.IsReadable := exists_assignments_iff
    cases houtcome : assignmentsOfDuties duties with
    | ok assignments =>
      have hall := hok.mp ⟨assignments, houtcome⟩
      simpa using hall
    | error failure =>
      have hnot : ¬ ∀ duty ∈ duties, duty.IsReadable := by
        rw [← hok, houtcome]
        rintro ⟨_, hassignments⟩
        cases hassignments
      simpa using hnot
  · intro hreadable
    obtain ⟨assignments, hassignments⟩ := exists_assignments_iff.mpr hreadable
    exact ⟨assignments, hassignments, gathered_of_duties hassignments, keyedByFirst_of_duties hassignments⟩

/-- Two validators in turn. One of them comes with another key later on, the other one twice with the same slot. -/
def scattered : List Duty := [⟨"0xaa", 1, 9⟩, ⟨"bb", 2, 8⟩, ⟨"0xcc", 1, 8⟩, ⟨"0xBB", 2, 8⟩]

/-- The duties are gathered; and behind them a duty of validator 1 spoils all, although its key is known. -/
theorem scattered_gathered :
    (∃ assignments, assignmentsOfDuties scattered = .ok assignments ∧
      Gathered (scattered.map Duty.claim) assignments ∧ KeyedByFirst scattered assignments ∧
      assignments = [⟨1, ⟨[0xaa]⟩, [8, 9]⟩, ⟨2, ⟨[0xbb]⟩, [8, 8]⟩]) ∧
    assignmentsOfDuties (scattered ++ [⟨"0xcg", 1, 10⟩, ⟨"0", 3, 11⟩]) =
      .error (.decode "public key of validator 1: Invalid character 'g' at position 1") := by
  obtain ⟨_, _, hgathered⟩ := duties_gathered scattered
  obtain ⟨_, hrefused, _⟩ := duties_gathered (scattered ++ [⟨"0xcg", 1, 10⟩, ⟨"0", 3, 11⟩])
  constructor
  · obtain ⟨assignments, hassignments, hclaims, hkeys⟩ := hgathered (by decide)
    refine ⟨assignments, hassignments, hclaims, hkeys, ?_⟩
    have hresult : assignmentsOfDuties scattered =
        .ok [⟨1, ⟨[0xaa]⟩, [8, 9].mergeSort⟩, ⟨2, ⟨[0xbb]⟩, [8, 8].mergeSort⟩] := by rfl
    rw [Except.ok.inj (hassignments.symm.trans hresult)]
    simp [List.mergeSort]
  · exact (hrefused _).mpr ⟨⟨"0xcg", 1, 10⟩, .badByte 103 1,
      ⟨scattered, [⟨"0", 3, 11⟩], rfl, by decide, by rfl⟩, by decide +kernel⟩

end Duties

end DutyRelay
