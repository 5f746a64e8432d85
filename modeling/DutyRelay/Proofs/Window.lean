import DutyRelay.Window

/-!
# Building schedules and moving the window

What later arguments need to know about `Schedule.build` and `Window.promote`, so that neither is
opened again. A schedule is built exactly from assignments without a slot of another epoch. A window
moves on whenever the schedule that is to become current is at hand, in the window or fresh; and a move
that fails leaves it as it is.

## Contents
- `fault?`: the failure that an outcome is.
- `Schedule.stray?_eq_none_iff`, `Schedule.strayFault?`, `Schedule.fault_build`: what stops a build.
- `Schedule.IsOf`: schedules that some assignments for an epoch amount to.
- `Window.Holds`: the schedules in a window.
- `Window.find?_eq_some`, `Window.staged?_eq_some`, `Window.staged?_of_next`: which schedule is found.
- `Window.promote_first`, `Window.promote_succ`, `Window.promote_eq_ok`: moving a copy on.
- `Window.run_advance`: moving on in place.
-/

namespace DutyRelay

/-- The failure that an outcome is, if it is one. -/
def fault? {α : Type} : Outcome α → Option Failure
  | .ok _ => none
  | .error failure => some failure

@[simp] theorem fault?_ok {α : Type} (value : α) : fault? (.ok value) = none := rfl

theorem fault?_eq_none_iff {α : Type} {outcome : Outcome α} :
    fault? outcome = none ↔ ∃ value, outcome = .ok value := by
  cases outcome with
  | ok value => exact ⟨fun _ => ⟨value, rfl⟩, fun _ => rfl⟩
  | error failure =>
    constructor
    · intro h; cases h
    · rintro ⟨_, h⟩; cases h

theorem fault?_eq_some_iff {α : Type} {outcome : Outcome α} {failure : Failure} :
    fault? outcome = some failure ↔ outcome = .error failure := by
  cases outcome with
  | ok value => exact ⟨nofun, nofun⟩
  | error failure' =>
    constructor
    · rintro ⟨⟩; rfl
    · rintro ⟨⟩; rfl

namespace Schedule

variable {length : EpochLength} {epoch : Epoch} {assignments : List Assignment} {schedule : Schedule}

/-! ## Building -/

theorem mem_claimsOf {claim : Claim} :
    claim ∈ claimsOf assignments ↔
      ∃ assignment ∈ assignments, claim.slot ∈ assignment.slots ∧ claim.validator = assignment.validator := by
  unfold claimsOf Assignment.claims
  rw [List.mem_flatMap]
  constructor
  · rintro ⟨assignment, hmem, hclaim⟩
    obtain ⟨slot, hslot, rfl⟩ := List.mem_map.mp hclaim
    exact ⟨assignment, hmem, hslot, rfl⟩
  · rintro ⟨assignment, hmem, hslot, hvalidator⟩
    refine ⟨assignment, hmem, List.mem_map.mpr ⟨claim.slot, hslot, ?_⟩⟩
    rw [← hvalidator]

/-- No claim is stray exactly if every listed slot lies in the epoch. -/
theorem stray?_eq_none_iff :
    stray? length epoch assignments = none ↔
      ∀ assignment ∈ assignments, ∀ slot ∈ assignment.slots, length.epochOf slot = epoch := by
  unfold stray?
  rw [List.find?_eq_none]
  constructor
  · intro h assignment hmem slot hslot
    have hclaim := h ⟨slot, assignment.validator⟩ (mem_claimsOf.mpr ⟨assignment, hmem, hslot, rfl⟩)
    simpa using hclaim
  · intro h claim hclaim
    obtain ⟨assignment, hmem, hslot, _⟩ := mem_claimsOf.mp hclaim
    simpa using h assignment hmem claim.slot hslot

/-- The failure to build the schedule of an epoch: the first slot of another one. -/
def strayFault? (length : EpochLength) (epoch : Epoch) (assignments : List Assignment) :
    Option Failure :=
  (stray? length epoch assignments).map fun claim => .slotOutsideEpoch claim.slot epoch

theorem strayFault?_eq_none_iff :
    strayFault? length epoch assignments = none ↔
      ∀ assignment ∈ assignments, ∀ slot ∈ assignment.slots, length.epochOf slot = epoch := by
  rw [strayFault?, Option.map_eq_none_iff, stray?_eq_none_iff]

theorem build_of_strayFault {failure : Failure}
    (h : strayFault? length epoch assignments = some failure) :
    build length epoch assignments = .error failure := by
  obtain ⟨claim, hclaim, rfl⟩ := Option.map_eq_some_iff.mp h
  simp only [build, hclaim]

theorem build_of_strayFault_none (h : strayFault? length epoch assignments = none) :
    ∃ schedule, build length epoch assignments = .ok schedule ∧
      schedule.epoch = epoch ∧ schedule.length = length := by
  have hstray : stray? length epoch assignments = none := Option.map_eq_none_iff.mp h
  unfold build
  rw [hstray]
  exact ⟨_, rfl, rfl, rfl⟩

theorem fault_build :
    fault? (build length epoch assignments) = strayFault? length epoch assignments := by
  cases hfault : strayFault? length epoch assignments with
  | some failure => rw [build_of_strayFault hfault]; rfl
  | none =>
    obtain ⟨schedule, hbuild, _⟩ := build_of_strayFault_none hfault
    rw [hbuild]
    rfl

/-- Some assignments for the epoch amount to the schedule. -/
def IsOf (length : EpochLength) (epoch : Epoch) (schedule : Schedule) : Prop :=
  ∃ assignments, build length epoch assignments = .ok schedule

theorem strayFault_none_of_build (h : build length epoch assignments = .ok schedule) :
    strayFault? length epoch assignments = none := by
  cases hfault : strayFault? length epoch assignments with
  | none => rfl
  | some failure => rw [build_of_strayFault hfault] at h; cases h

theorem epoch_of_build (h : build length epoch assignments = .ok schedule) :
    schedule.epoch = epoch := by
  obtain ⟨built, hbuilt, hepoch, _⟩ := build_of_strayFault_none (strayFault_none_of_build h)
  rw [h] at hbuilt
  cases hbuilt
  exact hepoch

theorem IsOf.epoch_eq (h : schedule.IsOf length epoch) : schedule.epoch = epoch := by
  obtain ⟨_, h⟩ := h
  exact epoch_of_build h

end Schedule

namespace Window

variable {window : Window} {epoch : Epoch} {schedule next : Schedule} {fresh : Option Schedule}

/-- The schedule is the current or the next one of the window. -/
def Holds (window : Window) (schedule : Schedule) : Prop :=
  window.current = some schedule ∨ window.next = some schedule

/-! ## Finding a schedule -/

/-- A schedule that is found for an epoch is one of those looked at, and of the epoch asked for. -/
theorem mem_of_find? {entries : List (Option Schedule)}
    (h : entries.reduceOption.find? (fun schedule => schedule.epoch = epoch) = some schedule) :
    schedule.epoch = epoch ∧ some schedule ∈ entries := by
  have hepoch := List.find?_some h
  obtain ⟨entry, hentry, rfl⟩ := List.mem_filterMap.mp (List.mem_of_find?_eq_some h)
  exact ⟨of_decide_eq_true hepoch, hentry⟩

/-- A schedule that answers questions is one of the window, and of the epoch asked for. -/
theorem find?_eq_some (h : window.find? epoch = some schedule) :
    schedule.epoch = epoch ∧ (window.current = some schedule ∨ window.next = some schedule) := by
  obtain ⟨hepoch, hentry⟩ := mem_of_find? h
  refine ⟨hepoch, ?_⟩
  rcases List.mem_cons.mp hentry with hcurrent | hrest
  · exact Or.inl hcurrent.symm
  · exact Or.inr (List.mem_singleton.mp hrest).symm

/-- A staged schedule is one of the window, and of the epoch asked for. -/
theorem staged?_eq_some (h : window.staged? epoch = some schedule) :
    schedule.epoch = epoch ∧ (window.current = some schedule ∨ window.next = some schedule) := by
  obtain ⟨hepoch, hentry⟩ := mem_of_find? h
  refine ⟨hepoch, ?_⟩
  rcases List.mem_cons.mp hentry with hnext | hrest
  · exact Or.inr hnext.symm
  · exact Or.inl (List.mem_singleton.mp hrest).symm

@[simp] theorem staged?_empty : empty.staged? epoch = none := rfl

/-- The next schedule is the one that is staged for its epoch. -/
theorem staged?_of_next (hnext : window.next = some schedule) (hepoch : schedule.epoch = epoch) :
    window.staged? epoch = some schedule := by
  have hentries : [window.next, window.current].reduceOption =
      schedule :: [window.current].reduceOption := by rw [hnext]; rfl
  unfold staged?
  rw [hentries]
  exact List.find?_cons_of_pos (decide_eq_true hepoch)

/-! ## Moving on -/

/-- There is no move to the first epoch, and the window stays as it is. -/
theorem run_advance_first (hnext : next.epoch = 0) :
    (advance next fresh).run.run window = (.error (.epochMismatch 1 0), window) := by
  unfold advance
  rw [hnext]
  rfl

/-- A move to a later epoch writes the window once the schedule that is to become current is at hand. -/
theorem run_advance_succ (hnext : next.epoch = epoch + 1) :
    (advance next fresh).run.run window =
      match window.currentFor epoch fresh with
      | .ok current => (.ok (), ⟨some current, some next⟩)
      | .error failure => (.error failure, window) := by
  unfold advance
  rw [hnext]
  show (ExceptT.bind (ExceptT.mk (pure (window.currentFor epoch fresh))) fun current =>
    (set (Window.mk (some current) (some next)) : ExceptT Failure (StateM Window) Unit)).run.run window = _
  cases window.currentFor epoch fresh <;> rfl

theorem promote_first (hnext : next.epoch = 0) : window.promote next fresh = .error (.epochMismatch 1 0) := by
  unfold promote
  rw [run_advance_first hnext]
  rfl

theorem promote_succ (hnext : next.epoch = epoch + 1) :
    window.promote next fresh = (window.currentFor epoch fresh).map fun current => ⟨some current, some next⟩ := by
  unfold promote
  rw [run_advance_succ hnext]
  cases window.currentFor epoch fresh <;> rfl

/-- **A move in place that fails leaves the window as it is**, and one that succeeds leaves what a copy would have
become. -/
theorem run_advance (window : Window) (next : Schedule) (fresh : Option Schedule) :
    (advance next fresh).run.run window =
      match window.promote next fresh with
      | .ok moved => (.ok (), moved)
      | .error failure => (.error failure, window) := by
  cases hnext : next.epoch with
  | zero => rw [promote_first hnext, run_advance_first hnext]
  | succ before =>
    rw [promote_succ hnext, run_advance_succ hnext]
    cases window.currentFor before fresh <;> rfl

/-- **A window moves on when the schedule that is to become current is at hand**: the staged one, or
else a fresh one of the epoch before the new next one. -/
theorem promote_eq_ok {current : Schedule} (hnext : next.epoch = epoch + 1)
    (hcurrent : (window.staged? epoch).or fresh = some current) (hepoch : current.epoch = epoch) :
    window.promote next fresh = .ok ⟨some current, some next⟩ := by
  rw [promote_succ hnext]
  unfold currentFor
  cases hstaged : window.staged? epoch with
  | some schedule =>
    rw [hstaged, Option.some_or] at hcurrent
    cases hcurrent
    rfl
  | none =>
    rw [hstaged, Option.none_or] at hcurrent
    subst hcurrent
    simp only [if_pos hepoch]
    rfl

end Window
end DutyRelay
