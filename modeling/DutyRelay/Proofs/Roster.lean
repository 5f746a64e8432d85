import Mathlib.Data.List.Basic
import DutyRelay.Payload
import DutyRelay.Proofs.LastWord

/-!
# The keys in a payload

A payload lists one key for every assigned slot, in slot order. On the way there a slot could be left out for two
reasons: its proposer has no key, or the list is full. Neither ever happens to a schedule that was built. Whoever
proposes a slot lists one, so its key was taken down; and an epoch has no more assigned slots than slots, so there
is room for all of them even after the sentinel.

## Contents
- `EpochLength.slotsOf`, `mem_slotsOf`: the slots of an epoch, in order.
- `Schedule.assigned`, `proposers_eq`, `assignedSlots_eq`: the slots with a proposer, in order.
- `keyEntriesFrom_known`: with a key for every slot and room for all of them nothing is left out.
- `Schedule.opening`, `payload_keys`: the list of keys, in full.
-/

namespace DutyRelay

/-! ## The slots of an epoch -/

namespace EpochLength

variable {length : EpochLength} {epoch : Epoch} {slot : Slot} {i : Nat}

/-- The slots of an epoch, in order. -/
def slotsOf (length : EpochLength) (epoch : Epoch) : List Slot :=
  List.range' (length.firstSlot epoch) length.slots

theorem epochOf_firstSlot_add (h : i < length.slots) :
    length.epochOf (length.firstSlot epoch + i) = epoch := by
  unfold epochOf firstSlot
  rw [Nat.add_comm, Nat.add_mul_div_right _ _ length.slots_pos, Nat.div_eq_of_lt h, Nat.zero_add]

theorem offsetOf_firstSlot_add (h : i < length.slots) :
    length.offsetOf (length.firstSlot epoch + i) = i := by
  unfold offsetOf firstSlot
  rw [Nat.add_comm, Nat.add_mul_mod_self_right, Nat.mod_eq_of_lt h]

theorem mem_slotsOf : slot ∈ length.slotsOf epoch ↔ length.epochOf slot = epoch := by
  unfold slotsOf
  rw [List.mem_range'_1]
  constructor
  · rintro ⟨hle, hlt⟩
    obtain ⟨i, rfl⟩ := Nat.exists_eq_add_of_le hle
    exact epochOf_firstSlot_add (by omega)
  · rintro rfl
    have hslot := length.firstSlot_add_offsetOf slot
    refine ⟨Nat.le.intro hslot, ?_⟩
    calc slot = length.firstSlot (length.epochOf slot) + length.offsetOf slot := hslot.symm
      _ < length.firstSlot (length.epochOf slot) + length.slots :=
        Nat.add_lt_add_left (length.offsetOf_lt slot) _

/-- An epoch with a slot that is a word starts at a word. -/
theorem startSlot_eq_firstSlot (hslot : slot ≤ Word.top) (hepoch : length.epochOf slot = epoch) :
    length.startSlot epoch = length.firstSlot epoch := by
  have hfirst := length.firstSlot_add_offsetOf slot
  rw [hepoch] at hfirst
  have hle : length.firstSlot epoch ≤ Word.top := Nat.le_trans (Nat.le.intro hfirst) hslot
  exact Word.clamp_eq_self hle

end EpochLength

namespace Schedule

variable {length : EpochLength} {epoch : Epoch} {slot : Slot} {assignments : List Assignment}
  {schedule : Schedule} {i : Nat}

/-! ## The assigned slots -/

/-- The assigned slots, in order. -/
def assigned (schedule : Schedule) : List Slot :=
  (schedule.length.slotsOf schedule.epoch).filter fun slot => (schedule.proposer? slot).isSome

theorem epochOf_of_proposer? (h : (schedule.proposer? slot).isSome = true) :
    schedule.length.epochOf slot = schedule.epoch := by
  unfold proposer? at h
  by_cases hslot : schedule.containsSlot slot = true
  · exact of_decide_eq_true hslot
  · rw [if_neg hslot] at h
    cases h

theorem mem_assigned : slot ∈ schedule.assigned ↔ (schedule.proposer? slot).isSome = true := by
  unfold assigned
  rw [List.mem_filter, EpochLength.mem_slotsOf]
  exact ⟨fun h => h.2, fun h => ⟨epochOf_of_proposer? h, h⟩⟩

theorem assigned_increasing (schedule : Schedule) : schedule.assigned.Pairwise (· < ·) :=
  List.Pairwise.filter _ List.pairwise_lt_range'

theorem length_assigned_le (schedule : Schedule) :
    schedule.assigned.length ≤ schedule.length.slots := by
  have hle := List.length_filter_le (fun slot => (schedule.proposer? slot).isSome)
    (schedule.length.slotsOf schedule.epoch)
  rwa [EpochLength.slotsOf, List.length_range'] at hle

/-- The proposer of a slot stands in the cell of its offset. -/
theorem proposer?_firstSlot_add (h : i < schedule.length.slots) :
    schedule.proposer? (schedule.length.firstSlot schedule.epoch + i) = (schedule.table[i]?).join := by
  unfold proposer? containsSlot
  rw [EpochLength.epochOf_firstSlot_add h, EpochLength.offsetOf_firstSlot_add h]
  simp

/-- The cells of the table with their offsets. -/
theorem zipIdx_table (schedule : Schedule) :
    schedule.table.toList.zipIdx =
      (List.range schedule.length.slots).map fun i => ((schedule.table[i]?).join, i) := by
  apply List.ext_getElem
  · simp [schedule.table_size]
  · intro i hi _
    have hsize : i < schedule.table.size := by simpa using hi
    simp [hsize]

/-- **The proposers are those of the slots of the epoch, one slot after another.** -/
theorem proposers_eq (schedule : Schedule) :
    schedule.proposers = (schedule.length.slotsOf schedule.epoch).filterMap fun slot =>
      (schedule.proposer? slot).map fun validator => ⟨slot, validator⟩ := by
  unfold proposers EpochLength.slotsOf
  rw [zipIdx_table, List.range'_eq_map_range, List.filterMap_map, List.filterMap_map]
  apply List.filterMap_congr
  intro i hi
  simp only [Function.comp_apply]
  rw [proposer?_firstSlot_add (List.mem_range.mp hi)]

theorem map_slot_proposers (schedule : Schedule) :
    schedule.proposers.map Claim.slot = schedule.assigned := by
  rw [proposers_eq, List.map_filterMap]
  unfold assigned
  rw [← List.filterMap_eq_filter]
  apply List.filterMap_congr
  intro slot _
  cases hslot : schedule.proposer? slot <;> simp [Option.guard, hslot]

theorem mem_proposers {claim : Claim} :
    claim ∈ schedule.proposers ↔ schedule.proposer? claim.slot = some claim.validator := by
  rw [proposers_eq, List.mem_filterMap]
  constructor
  · rintro ⟨slot, _, hclaim⟩
    obtain ⟨validator, hvalidator, rfl⟩ := Option.map_eq_some_iff.mp hclaim
    exact hvalidator
  · intro h
    refine ⟨claim.slot, ?_, by simp [h]⟩
    exact EpochLength.mem_slotsOf.mpr (epochOf_of_proposer? (by simp [h]))

/-- The count of assigned slots is the length of their list. -/
theorem assignedSlots_eq (schedule : Schedule) : schedule.assignedSlots = schedule.assigned.length := by
  calc schedule.assignedSlots
    _ = schedule.table.toList.countP Option.isSome := Array.countP_toList.symm
    _ = (schedule.table.toList.zipIdx.map Prod.fst).countP Option.isSome := by
      rw [List.zipIdx_map_fst]
    _ = schedule.proposers.length := by
      unfold proposers
      rw [List.length_filterMap_eq_countP, List.countP_map]
      congr 1
      funext cell
      simp
    _ = schedule.assigned.length := by
      rw [← map_slot_proposers, List.length_map]

/-! ## The entries of the list of keys -/

/-- With a key for every slot and room for all of them nothing is left out. -/
theorem keyEntriesFrom_known {claims : List Claim} {keys : List PublicKey} {room : Nat}
    (hkeys : (claims.map fun claim => schedule.pubkey? claim.validator) = keys.map some)
    (hroom : claims.length ≤ room) :
    schedule.keyEntriesFrom room claims = keys.map .listed := by
  induction claims generalizing keys room with
  | nil =>
    obtain rfl : keys = [] := List.map_eq_nil_iff.mp hkeys.symm
    rfl
  | cons claim rest ih =>
    obtain ⟨key, keys, rfl⟩ : ∃ key later, keys = key :: later := by
      cases keys with
      | nil => simp at hkeys
      | cons key keys => exact ⟨key, keys, rfl⟩
    rw [List.map_cons, List.map_cons, List.cons.injEq] at hkeys
    obtain ⟨hkey, hrest⟩ := hkeys
    obtain ⟨room, rfl⟩ : ∃ less, room = less + 1 :=
      Nat.exists_eq_succ_of_ne_zero (by rw [List.length_cons] at hroom; omega)
    have hless : rest.length ≤ room := by
      rw [List.length_cons] at hroom
      omega
    simp only [keyEntriesFrom, hkey, ih hrest hless, List.map_cons]

/-- Every assigned slot of a built schedule has the key of its proposer. -/
theorem exists_keys (h : build length epoch assignments = .ok schedule) :
    ∃ keys : List PublicKey, schedule.assigned.map schedule.proposerPubkey? = keys.map some := by
  refine ⟨schedule.assigned.map fun slot => (schedule.proposerPubkey? slot).getD default, ?_⟩
  rw [List.map_map]
  apply List.map_congr_left
  intro slot hslot
  have hrecords := records_of_build h
  have hpresent := (hrecords.present slot).mpr ((hrecords.assigned slot).mp (mem_assigned.mp hslot))
  obtain ⟨key, hkey⟩ := Option.isSome_iff_exists.mp hpresent
  simp [hkey]

/-- The keys looked up by proposer are those looked up by slot. -/
theorem map_pubkey?_proposers (schedule : Schedule) :
    (schedule.proposers.map fun claim => schedule.pubkey? claim.validator) =
      schedule.assigned.map schedule.proposerPubkey? := by
  rw [← map_slot_proposers, List.map_map]
  apply List.map_congr_left
  intro claim hclaim
  simp [proposerPubkey?, mem_proposers.mp hclaim]

/-- What stands in front of the keys: the sentinel, for the first epoch and with more assignments than slots. -/
def opening (schedule : Schedule) : List String :=
  if schedule.epoch = 0 ∧ schedule.length.slots < schedule.assignmentCount then [sentinel] else []

theorem length_opening_le (schedule : Schedule) : schedule.opening.length ≤ 1 := by
  unfold opening
  split <;> simp

theorem keyEntries_of_keys {keys : List PublicKey}
    (hkeys : schedule.assigned.map schedule.proposerPubkey? = keys.map some) :
    schedule.keyEntries = keys.map .listed := by
  have hcount : schedule.proposers.length ≤ schedule.length.slots := by
    rw [← List.length_map (f := Claim.slot), map_slot_proposers]
    exact schedule.length_assigned_le
  unfold keyEntries
  apply keyEntriesFrom_known
  · rw [map_pubkey?_proposers, hkeys]
  · -- The sentinel takes the one place that the list has beyond the slots.
    split <;> omega

theorem keyTexts_of_keys {keys : List PublicKey}
    (hkeys : schedule.assigned.map schedule.proposerPubkey? = keys.map some) :
    schedule.keyTexts = schedule.opening ++ keys.map PublicKey.text := by
  unfold keyTexts opening needsSentinel
  rw [keyEntries_of_keys hkeys, List.filterMap_map]
  simp [Function.comp_def, KeyEntry.text?]

/-- Behind the opening, the list has at each place the key of the assigned slot of that place. -/
theorem getElem?_opening_add {keys : List PublicKey}
    (hkeys : schedule.assigned.map schedule.proposerPubkey? = keys.map some) (k : Nat) :
    schedule.keyTexts[schedule.opening.length + k]? =
      (schedule.assigned[k]?.bind schedule.proposerPubkey?).map PublicKey.text := by
  have hentry : schedule.assigned[k]?.map schedule.proposerPubkey? = keys[k]?.map some := by
    rw [← List.getElem?_map, hkeys, List.getElem?_map]
  have hkey : schedule.assigned[k]?.bind schedule.proposerPubkey? = keys[k]? := by
    calc schedule.assigned[k]?.bind schedule.proposerPubkey?
      _ = (schedule.assigned[k]?.map schedule.proposerPubkey?).join := by
        cases schedule.assigned[k]? <;> rfl
      _ = (keys[k]?.map some).join := by rw [hentry]
      _ = keys[k]? := by cases keys[k]? <;> rfl
  rw [keyTexts_of_keys hkeys, List.getElem?_append_right (Nat.le_add_right _ _),
    Nat.add_sub_cancel_left, List.getElem?_map, hkey]

/-- The list of keys at a slot of an epoch in which every slot is assigned. -/
theorem getElem?_keyTexts {keys : List PublicKey}
    (hkeys : schedule.assigned.map schedule.proposerPubkey? = keys.map some)
    (hfull : ∀ slot, schedule.length.epochOf slot = schedule.epoch →
      (schedule.proposer? slot).isSome = true) (hi : i < schedule.length.slots) :
    ∃ key, schedule.proposerPubkey? (schedule.length.firstSlot schedule.epoch + i) = some key ∧
      schedule.keyTexts[schedule.opening.length + i]? = some key.text := by
  have hassigned : schedule.assigned = schedule.length.slotsOf schedule.epoch := by
    unfold assigned
    rw [List.filter_eq_self]
    intro slot hslot
    exact hfull slot (EpochLength.mem_slotsOf.mp hslot)
  have hslot : schedule.assigned[i]? = some (schedule.length.firstSlot schedule.epoch + i) := by
    rw [hassigned, EpochLength.slotsOf]
    simp [hi]
  have hmem : schedule.proposerPubkey? (schedule.length.firstSlot schedule.epoch + i) ∈ keys.map some := by
    rw [← hkeys]
    exact List.mem_map_of_mem (List.mem_of_getElem? hslot)
  obtain ⟨key, _, hkey⟩ := List.mem_map.mp hmem
  refine ⟨key, hkey.symm, ?_⟩
  rw [getElem?_opening_add hkeys, hslot, Option.bind_some, ← hkey, Option.map_some]

end Schedule

open Schedule in
/-- **The list of keys is complete and in order.** The payload of a built schedule lists the keys of the proposers
of all assigned slots, in the order of the slots, after the sentinel where that is called for. No slot is left out,
for want of a key or for want of room, and there is no journal line about one. If every slot of the epoch is
assigned, the list can be read by position. -/
theorem payload_keys {length : EpochLength} {epoch : Epoch} {assignments : List Assignment}
    {schedule : Schedule} (calendar : Calendar) (h : build length epoch assignments = .ok schedule) :
    ∃ (slots : List Slot) (keys : List PublicKey),
      slots.Pairwise (· < ·) ∧
      (∀ slot, slot ∈ slots ↔ (schedule.proposer? slot).isSome = true) ∧
      slots.map schedule.proposerPubkey? = keys.map some ∧
      schedule.keyEntries = keys.map .listed ∧ schedule.payloadLines = [] ∧
      (calendar.payload schedule).keys = schedule.opening ++ keys.map PublicKey.text ∧
      (calendar.payload schedule).keys.length = schedule.opening.length + schedule.assignedSlots ∧
      (calendar.payload schedule).keys.length ≤ length.slots + 1 ∧
      ((∀ slot, length.epochOf slot = epoch → (schedule.proposer? slot).isSome = true) →
        (∀ slot ∈ listedSlots assignments, slot ≤ Word.top) →
        ∀ i < length.slots, ∃ key, schedule.proposerPubkey? (schedule.startSlot + i) = some key ∧
          (calendar.payload schedule).keys[schedule.opening.length + i]? = some key.text) := by
  obtain ⟨_, rfl, rfl, _, _, _⟩ := eq_of_build h
  obtain ⟨keys, hkeys⟩ := exists_keys h
  have hlist : (calendar.payload schedule).keys = schedule.opening ++ keys.map PublicKey.text :=
    keyTexts_of_keys hkeys
  have hcount : keys.length = schedule.assignedSlots := by
    rw [assignedSlots_eq, ← List.length_map (f := some), ← hkeys, List.length_map]
  have hlength : (calendar.payload schedule).keys.length =
      schedule.opening.length + schedule.assignedSlots := by
    rw [hlist, List.length_append, List.length_map, hcount]
  refine ⟨schedule.assigned, keys, schedule.assigned_increasing, fun slot => mem_assigned, hkeys,
    keyEntries_of_keys hkeys, ?_, hlist, hlength, ?_, ?_⟩
  · unfold payloadLines
    rw [keyEntries_of_keys hkeys, List.filterMap_map]
    simp [Function.comp_def, KeyEntry.line?]
  · have hopening := schedule.length_opening_le
    have hassigned := schedule.length_assigned_le
    rw [hlength, assignedSlots_eq]
    omega
  · intro hfull hwords i hi
    -- One of the slots is enough to know that the epoch starts at a word.
    have hepoch : schedule.length.epochOf (schedule.length.firstSlot schedule.epoch + i) = schedule.epoch :=
      EpochLength.epochOf_firstSlot_add hi
    have hlisted := ((records_of_build h).assigned _).mp (hfull _ hepoch)
    have hstart : schedule.startSlot = schedule.length.firstSlot schedule.epoch :=
      EpochLength.startSlot_eq_firstSlot (hwords _ hlisted) hepoch
    rw [hstart]
    exact getElem?_keyTexts hkeys hfull hi

/-- A first epoch of two slots with more assignments than slots. -/
def genesisDuties : List Assignment := [⟨5, ⟨[0x05]⟩, [1]⟩, ⟨6, ⟨[0xab]⟩, [0]⟩, ⟨7, ⟨[0xcd]⟩, []⟩]

/-- The sentinel shifts the keys by one, and the key of the first slot comes next. -/
theorem payload_keys_genesis :
    ∃ schedule, Schedule.build ⟨2, by decide⟩ 0 genesisDuties = .ok schedule ∧
      (∀ slot, (⟨2, by decide⟩ : EpochLength).epochOf slot = 0 → (schedule.proposer? slot).isSome = true) ∧
      (∀ slot ∈ Schedule.listedSlots genesisDuties, slot ≤ Word.top) ∧
      schedule.opening = ["0x"] ∧
      (Calendar.payload ⟨0, Span.ofSeconds 6⟩ schedule).keys = ["0x", "0xab", "0x05"] := by
  obtain ⟨schedule, hbuild⟩ :
      ∃ schedule, Schedule.build ⟨2, by decide⟩ 0 genesisDuties = .ok schedule := ⟨_, rfl⟩
  have hrecords := Schedule.records_of_build hbuild
  have hfull : ∀ slot, (⟨2, by decide⟩ : EpochLength).epochOf slot = 0 →
      (schedule.proposer? slot).isSome = true := by
    intro slot hslot
    rw [hrecords.assigned]
    have hmem : slot ∈ [0, 1] := EpochLength.mem_slotsOf.mpr hslot
    simp only [List.mem_cons, List.not_mem_nil, or_false] at hmem
    rcases hmem with rfl | rfl <;> decide
  have hwords : ∀ slot ∈ Schedule.listedSlots genesisDuties, slot ≤ Word.top := by decide
  obtain ⟨_, keys, _, _, _, _, _, hlist, hlength, _, hread⟩ := payload_keys ⟨0, Span.ofSeconds 6⟩ hbuild
  have hopening : schedule.opening = ["0x"] := by
    unfold Schedule.opening
    rw [hrecords.epoch_eq, hrecords.length_eq, hrecords.count]
    rfl
  have hthree : (Calendar.payload ⟨0, Span.ofSeconds 6⟩ schedule).keys.length = 3 := by
    rw [hlength, hopening]
    cases hbuild
    rfl
  have hmark : (Calendar.payload ⟨0, Span.ofSeconds 6⟩ schedule).keys[0]? = some "0x" := by
    rw [hlist, hopening]
    rfl
  have hfirst : (Calendar.payload ⟨0, Span.ofSeconds 6⟩ schedule).keys[1]? = some "0xab" := by
    obtain ⟨key, hkey, hentry⟩ := hread hfull hwords 0 (by decide)
    cases hbuild
    obtain rfl : key = ⟨[0xab]⟩ := Option.some.inj (hkey.symm.trans rfl)
    exact hentry
  have hsecond : (Calendar.payload ⟨0, Span.ofSeconds 6⟩ schedule).keys[2]? = some "0x05" := by
    obtain ⟨key, hkey, hentry⟩ := hread hfull hwords 1 (by decide)
    cases hbuild
    obtain rfl : key = ⟨[0x05]⟩ := Option.some.inj (hkey.symm.trans rfl)
    exact hentry
  refine ⟨schedule, hbuild, hfull, hwords, hopening, ?_⟩
  generalize (Calendar.payload ⟨0, Span.ofSeconds 6⟩ schedule).keys = texts at hthree hmark hfirst hsecond
  obtain ⟨mark, first, second, rfl⟩ := List.length_eq_three.mp hthree
  cases hmark
  cases hfirst
  cases hsecond
  rfl

end DutyRelay
