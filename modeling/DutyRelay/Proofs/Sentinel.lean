import DutyRelay.Beacon
import DutyRelay.Proofs.Roster

/-!
# The sentinel among the keys

The list of keys of the first epoch may open with the sentinel `0x`, and then the keys behind it are shifted by
one. But `0x` is also the written form of the empty key, and nothing on the way from the beacon node to the
payload asks that a key have any bytes. So the sentinel stands in a list for one of two reasons, and this file
says at which places for which: in front, where there are more assignments than slots in the first epoch, and
at every slot whose proposer has an empty key. It tells about the shift exactly if there is no such slot.

## Contents
- `PublicKey.text_eq_sentinel_iff`: whose written form the sentinel is.
- `Schedule.IsShifted`, `getElem?_opening`: the sentinel in front.
- `Schedule.HasEmptyKey`, `getElem?_keyTexts_eq_sentinel_iff`: where the sentinel stands.
- `sentinel_stands_iff`: the whole account; `genesis_sentinel_in_front`: a list in which the sentinel tells.
- `sentinel_outside_genesis`: a later epoch whose list opens with the sentinel.
-/

namespace DutyRelay

/-! ## The written form of a key -/

theorem Hex.encode_eq_nil_iff {bytes : List UInt8} : Hex.encode bytes = [] ↔ bytes = [] := by
  unfold Hex.encode
  cases bytes with
  | nil => simp
  | cons byte rest => simp [Hex.pair]

/-- **The sentinel is the written form of the empty key**, and of no other. -/
theorem PublicKey.text_eq_sentinel_iff {key : PublicKey} :
    key.text = sentinel ↔ key.isEmpty = true := by
  have hdigits : key.text = sentinel ↔ Hex.encode key.bytes = [] := by
    unfold PublicKey.text sentinel
    rw [← String.toList_inj, String.toList_append, String.toList_ofList]
    exact List.append_right_eq_self.trans (by rw [String.toList_ofList])
  rw [hdigits, Hex.encode_eq_nil_iff, PublicKey.isEmpty, List.isEmpty_iff]

namespace Schedule

variable {length : EpochLength} {epoch : Epoch} {slot : Slot} {assignments : List Assignment}
  {schedule : Schedule} {i : Nat}

/-! ## The sentinel in front -/

/-- There are more assignments than slots in the first epoch. -/
def IsShifted (schedule : Schedule) : Prop :=
  schedule.epoch = 0 ∧ schedule.length.slots < schedule.assignmentCount

instance (schedule : Schedule) : Decidable schedule.IsShifted :=
  inferInstanceAs (Decidable (_ ∧ _))

theorem isShifted_of_build (h : build length epoch assignments = .ok schedule) :
    schedule.IsShifted ↔ epoch = 0 ∧ length.slots < assignments.length := by
  obtain ⟨_, hepoch, hlength, _, _, hcount⟩ := eq_of_build h
  unfold IsShifted
  rw [hepoch, hlength, hcount]

theorem opening_eq (schedule : Schedule) :
    schedule.opening = if schedule.IsShifted then [sentinel] else [] := rfl

/-- In front of the keys there is nothing but the sentinel. -/
theorem getElem?_opening (hi : i < schedule.opening.length) :
    i = 0 ∧ schedule.IsShifted ∧ schedule.opening[i]? = some sentinel := by
  rw [opening_eq] at hi ⊢
  by_cases hshifted : schedule.IsShifted
  · rw [if_pos hshifted] at hi ⊢
    obtain rfl : i = 0 := Nat.lt_one_iff.mp hi
    exact ⟨rfl, hshifted, rfl⟩
  · rw [if_neg hshifted] at hi
    exact absurd hi (Nat.not_lt_zero i)

/-! ## Where the sentinel stands -/

/-- The slot has a proposer, and the proposer's key is empty. -/
def HasEmptyKey (schedule : Schedule) (slot : Slot) : Prop :=
  ∃ key, schedule.proposerPubkey? slot = some key ∧ key.isEmpty = true

/-- An assigned slot with an empty key has a place among the assigned slots. -/
theorem HasEmptyKey.exists_index (h : schedule.HasEmptyKey slot) :
    ∃ k : Nat, schedule.assigned[k]? = some slot := by
  obtain ⟨key, hkey, _⟩ := h
  obtain ⟨validator, hproposer, _⟩ := Option.bind_eq_some_iff.mp hkey
  exact List.mem_iff_getElem?.mp (mem_assigned.mpr (Option.isSome_iff_exists.mpr ⟨validator, hproposer⟩))

/-- Behind the opening, the sentinel stands for the slots with an empty key. -/
theorem getElem?_opening_add_eq_sentinel_iff (h : build length epoch assignments = .ok schedule) (k : Nat) :
    schedule.keyTexts[schedule.opening.length + k]? = some sentinel ↔
      ∃ slot, schedule.assigned[k]? = some slot ∧ schedule.HasEmptyKey slot := by
  obtain ⟨keys, hkeys⟩ := exists_keys h
  rw [getElem?_opening_add hkeys, Option.map_eq_some_iff]
  simp only [PublicKey.text_eq_sentinel_iff, Option.bind_eq_some_iff]
  constructor
  · rintro ⟨key, ⟨slot, hslot, hkey⟩, hempty⟩
    exact ⟨slot, hslot, key, hkey, hempty⟩
  · rintro ⟨slot, hslot, key, hkey, hempty⟩
    exact ⟨key, ⟨slot, hslot, hkey⟩, hempty⟩

/-- **Where the sentinel stands**: in front if the keys are shifted, and at every slot with an empty key. -/
theorem getElem?_keyTexts_eq_sentinel_iff (h : build length epoch assignments = .ok schedule) :
    schedule.keyTexts[i]? = some sentinel ↔
      (i = 0 ∧ schedule.IsShifted) ∨
      ∃ k slot, i = schedule.opening.length + k ∧ schedule.assigned[k]? = some slot ∧
        schedule.HasEmptyKey slot := by
  by_cases hi : i < schedule.opening.length
  · obtain ⟨keys, hkeys⟩ := exists_keys h
    obtain ⟨hzero, hshifted, hentry⟩ := getElem?_opening hi
    rw [keyTexts_of_keys hkeys, List.getElem?_append_left hi]
    exact ⟨fun _ => Or.inl ⟨hzero, hshifted⟩, fun _ => hentry⟩
  · obtain ⟨k, rfl⟩ := Nat.exists_eq_add_of_le (Nat.le_of_not_lt hi)
    rw [getElem?_opening_add_eq_sentinel_iff h]
    constructor
    · rintro ⟨slot, hslot, hempty⟩
      exact Or.inr ⟨k, slot, rfl, hslot, hempty⟩
    · rintro (⟨hzero, hshifted⟩ | ⟨k', slot, hplace, hslot, hempty⟩)
      · -- The first place would belong to the opening.
        have hlength : schedule.opening.length = 1 := by
          rw [opening_eq, if_pos hshifted]
          rfl
        omega
      · obtain rfl : k = k' := Nat.add_left_cancel hplace
        exact ⟨slot, hslot, hempty⟩

/-- Without an assignment that lists a slot and has an empty key, no slot has one. -/
theorem not_hasEmptyKey_of_keys (h : build length epoch assignments = .ok schedule)
    (hkeys : ∀ assignment ∈ assignments, assignment.slots ≠ [] → assignment.key.isEmpty = false) :
    ¬ schedule.HasEmptyKey slot := by
  rintro ⟨key, hkey, hempty⟩
  obtain ⟨validator, _, hpubkey⟩ := Option.bind_eq_some_iff.mp hkey
  obtain ⟨assignment, hmem, _, rfl, hslots⟩ := assignment_of_pubkey? h hpubkey
  rw [hkeys assignment hmem hslots] at hempty
  cases hempty

end Schedule

open Schedule in
/-- **When the sentinel tells about the shift.** In the payload of a built schedule the sentinel stands in front if
the keys are shifted, and at every slot with an empty key. So it stands in front alone, and for a shift alone,
exactly if no slot has an empty key; then the first entry tells whether the keys are shifted. It is enough that
every assignment that lists a slot has a key with bytes. -/
theorem sentinel_stands_iff {length : EpochLength} {epoch : Epoch} {assignments : List Assignment}
    {schedule : Schedule} (calendar : Calendar) (h : build length epoch assignments = .ok schedule) :
    (∀ i, (calendar.payload schedule).keys[i]? = some sentinel ↔
      (i = 0 ∧ epoch = 0 ∧ length.slots < assignments.length) ∨
      ∃ k slot, i = schedule.opening.length + k ∧ schedule.assigned[k]? = some slot ∧
        schedule.HasEmptyKey slot) ∧
    ((∀ i, (calendar.payload schedule).keys[i]? = some sentinel →
        i = 0 ∧ epoch = 0 ∧ length.slots < assignments.length) ↔
      ∀ slot, ¬ schedule.HasEmptyKey slot) ∧
    ((∀ slot, ¬ schedule.HasEmptyKey slot) →
      ((calendar.payload schedule).keys[0]? = some sentinel ↔
        epoch = 0 ∧ length.slots < assignments.length)) ∧
    ((∀ assignment ∈ assignments, assignment.slots ≠ [] → assignment.key.isEmpty = false) →
      ∀ slot, ¬ schedule.HasEmptyKey slot) := by
  have hshifted := isShifted_of_build h
  have hstands : ∀ i, (calendar.payload schedule).keys[i]? = some sentinel ↔
      (i = 0 ∧ epoch = 0 ∧ length.slots < assignments.length) ∨
      ∃ k slot, i = schedule.opening.length + k ∧ schedule.assigned[k]? = some slot ∧
        schedule.HasEmptyKey slot := by
    intro i
    rw [← hshifted]
    exact getElem?_keyTexts_eq_sentinel_iff h
  refine ⟨hstands, ⟨?_, ?_⟩, ?_, fun hkeys slot => not_hasEmptyKey_of_keys h hkeys⟩
  · intro honly slot hempty
    obtain ⟨k, hslot⟩ := hempty.exists_index
    obtain ⟨hzero, hgenesis⟩ := honly _ ((hstands _).mpr (Or.inr ⟨k, slot, rfl, hslot, hempty⟩))
    -- The keys are shifted, so that no slot has its entry in front.
    rw [opening_eq, if_pos (hshifted.mpr hgenesis)] at hzero
    exact absurd hzero (by simp)
  · intro hnone i hi
    rcases (hstands i).mp hi with hfront | ⟨_, slot, _, _, hempty⟩
    · exact hfront
    · exact absurd hempty (hnone slot)
  · intro hnone
    rw [hstands]
    constructor
    · rintro (⟨_, hgenesis⟩ | ⟨_, slot, _, _, hempty⟩)
      · exact hgenesis
      · exact absurd hempty (hnone slot)
    · exact fun hgenesis => Or.inl ⟨rfl, hgenesis⟩

/-- In the first epoch of `genesisDuties` the sentinel stands in front and nowhere else. -/
theorem genesis_sentinel_in_front :
    ∃ schedule, Schedule.build ⟨2, by decide⟩ 0 genesisDuties = .ok schedule ∧
      (Calendar.payload ⟨0, Span.ofSeconds 6⟩ schedule).keys[0]? = some sentinel ∧
      ∀ i, (Calendar.payload ⟨0, Span.ofSeconds 6⟩ schedule).keys[i]? = some sentinel → i = 0 := by
  obtain ⟨schedule, hbuild⟩ :
      ∃ schedule, Schedule.build ⟨2, by decide⟩ 0 genesisDuties = .ok schedule := ⟨_, rfl⟩
  obtain ⟨_, honly, hfirst, hkeys⟩ := sentinel_stands_iff ⟨0, Span.ofSeconds 6⟩ hbuild
  have hnone := hkeys (by decide)
  exact ⟨schedule, hbuild, (hfirst hnone).mpr (by decide), fun i hi => (honly.mpr hnone i hi).1⟩

/-- **The sentinel may open the list of any epoch.** The beacon node reports the key `0x` for the first slot of
epoch 2, and the payload is the one that a shifted list with the key of the second validator would be. -/
theorem sentinel_outside_genesis :
    (∃ assignments schedule,
      assignmentsOfDuties [⟨"0x", 1, 8⟩, ⟨"0xbb", 2, 9⟩] = .ok assignments ∧
      Schedule.build ⟨4, by decide⟩ 2 assignments = .ok schedule ∧
      (Calendar.payload ⟨1000, Span.ofSeconds 6⟩ schedule).keys = [sentinel, "0xbb"]) ∧
    ¬ ∀ calendar length epoch assignments schedule, Schedule.build length epoch assignments = .ok schedule →
      ∀ i, (Calendar.payload calendar schedule).keys[i]? = some sentinel →
        i = 0 ∧ epoch = 0 ∧ length.slots < assignments.length := by
  obtain ⟨schedule, hbuild, hkeys⟩ :
      ∃ schedule, Schedule.build ⟨4, by decide⟩ 2 [⟨1, ⟨[]⟩, [8]⟩, ⟨2, ⟨[0xbb]⟩, [9]⟩] = .ok schedule ∧
        (Calendar.payload ⟨1000, Span.ofSeconds 6⟩ schedule).keys = [sentinel, "0xbb"] := ⟨_, rfl, rfl⟩
  have hgathered : assignmentsOfDuties [⟨"0x", 1, 8⟩, ⟨"0xbb", 2, 9⟩] =
      .ok [⟨1, ⟨[]⟩, [8]⟩, ⟨2, ⟨[0xbb]⟩, [9]⟩] := by cbv
  refine ⟨⟨_, schedule, hgathered, hbuild, hkeys⟩, fun hfront => ?_⟩
  obtain ⟨_, hepoch, _⟩ := hfront ⟨1000, Span.ofSeconds 6⟩ _ _ _ _ hbuild 0 (by rw [hkeys]; rfl)
  cases hepoch

end DutyRelay
