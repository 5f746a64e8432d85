import DutyRelay.Proofs.Window

/-!
# Any sequence of moves

`Window.advance` may be tried in any order: for epochs that are far ahead, that come again, or that lie behind.
A move that fails leaves the window as it is. Whatever is tried, the window is empty or holds the schedules of two
epochs in a row; and since it never holds two schedules of one epoch, it is clear which of them becomes current.

## Contents
- `Window.staged?_eq_none_iff`: the epochs without a schedule.
- `Window.Promotion`, `Window.promotion_promote`: what a move can come to, case by case.
- `Window.Aligned`, `Window.Aligned.eq_of_holds`: two epochs in a row.
- `Move`, `Window.after`, `Window.reached`, `Window.aligned_reached`: moves one after another.
- `Window.reached_promote`: a further move, in full; `Window.detour`: moves that go back and fail.
-/

namespace DutyRelay

namespace Window

variable {window moved : Window} {epoch : Epoch} {schedule other next : Schedule}
  {fresh : Option Schedule} {failure : Failure}

/-! ## What is staged -/

/-- A schedule is staged for every epoch that the window has one of. -/
theorem staged?_eq_none_iff :
    window.staged? epoch = none ↔ ∀ schedule, window.Holds schedule → schedule.epoch ≠ epoch := by
  have hmem : ∀ schedule, schedule ∈ [window.next, window.current].reduceOption ↔
      window.Holds schedule := by
    intro schedule
    unfold Holds List.reduceOption
    simp [List.mem_filterMap, eq_comm, or_comm]
  unfold staged?
  rw [List.find?_eq_none]
  constructor
  · intro h schedule hholds
    simpa using h schedule ((hmem schedule).mpr hholds)
  · intro h schedule hschedule
    simpa using h schedule ((hmem schedule).mp hschedule)

/-! ## What a move can come to -/

/-- What a move to a new next schedule comes to: the schedule of the epoch before it is in the window, or it is the
fresh one; or the move fails, since no epoch comes before, or since the fresh one is missing or of another epoch. -/
inductive Promotion (window : Window) (next : Schedule) (fresh : Option Schedule) :
    Outcome Window → Prop
  | staged {current} (hstaged : window.staged? current.epoch = some current)
      (hnext : next.epoch = current.epoch + 1) :
      Promotion window next fresh (.ok ⟨some current, some next⟩)
  | fetched {current} (hstaged : window.staged? current.epoch = none) (hfresh : fresh = some current)
      (hnext : next.epoch = current.epoch + 1) :
      Promotion window next fresh (.ok ⟨some current, some next⟩)
  | first (hnext : next.epoch = 0) : Promotion window next fresh (.error (.epochMismatch 1 0))
  | missing {before} (hnext : next.epoch = before + 1) (hstaged : window.staged? before = none)
      (hfresh : fresh = none) :
      Promotion window next fresh (.error (.unavailable s!"schedule for epoch {before}"))
  | mismatched {before schedule} (hnext : next.epoch = before + 1)
      (hstaged : window.staged? before = none) (hfresh : fresh = some schedule)
      (hepoch : schedule.epoch ≠ before) :
      Promotion window next fresh (.error (.epochMismatch before schedule.epoch))

/-- **Every move comes to one of these.** -/
theorem promotion_promote (window : Window) (next : Schedule) (fresh : Option Schedule) :
    window.Promotion next fresh (window.promote next fresh) := by
  cases hnext : next.epoch with
  | zero =>
    rw [promote_first hnext]
    exact .first hnext
  | succ before =>
    rw [promote_succ hnext]
    unfold currentFor
    cases hstaged : window.staged? before with
    | some current =>
      obtain ⟨rfl, _⟩ := staged?_eq_some hstaged
      exact .staged hstaged hnext
    | none =>
      cases hfresh : fresh with
      | none => exact .missing hnext hstaged rfl
      | some schedule =>
        by_cases hepoch : schedule.epoch = before
        · subst hepoch
          simp only [if_pos]
          exact .fetched hstaged rfl hnext
        · simp only [if_neg hepoch]
          exact .mismatched hnext hstaged rfl hepoch

/-! ## Two epochs in a row -/

/-- The window is empty, or it holds the schedules of two epochs in a row. -/
def Aligned (window : Window) : Prop :=
  window = empty ∨ ∃ current next, window = ⟨some current, some next⟩ ∧ next.epoch = current.epoch + 1

theorem aligned_empty : empty.Aligned := Or.inl rfl

/-- **A move that succeeds leaves two epochs in a row**, whatever the window was before it. -/
theorem Promotion.aligned (h : window.Promotion next fresh (.ok moved)) : moved.Aligned := by
  cases h with
  | staged _ hnext => exact Or.inr ⟨_, _, rfl, hnext⟩
  | fetched _ _ hnext => exact Or.inr ⟨_, _, rfl, hnext⟩

/-- An aligned window has one schedule of an epoch at most. -/
theorem Aligned.eq_of_holds (h : window.Aligned) (hschedule : window.Holds schedule)
    (hother : window.Holds other) (hepoch : schedule.epoch = other.epoch) : schedule = other := by
  rcases h with rfl | ⟨current, next, rfl, hnext⟩
  · rcases hschedule with hschedule | hschedule <;> cases hschedule
  · rcases hschedule with hschedule | hschedule <;> rcases hother with hother | hother <;>
      cases hschedule <;> cases hother
    · rfl
    · exact absurd (hepoch.trans hnext) (Nat.ne_of_lt (Nat.lt_succ_self _))
    · exact absurd (hepoch.symm.trans hnext) (Nat.ne_of_lt (Nat.lt_succ_self _))
    · rfl

end Window

/-! ## Moves one after another -/

/-- What is given to a move: the new next schedule, and perhaps a fresh one for the epoch before it. -/
structure Move where
  next : Schedule
  fresh : Option Schedule

namespace Window

variable {window moved : Window} {epoch : Epoch} {schedule other next : Schedule}
  {fresh : Option Schedule} {failure : Failure} {move : Move} {moves : List Move}

/-- What a move that is tried in place leaves of a window. -/
def after (window : Window) (move : Move) : Window := ((advance move.next move.fresh).run.run window).2

/-- The window that is reached from an empty one when moves are tried one after another. -/
def reached (moves : List Move) : Window := moves.foldl after empty

theorem reached_append (moves : List Move) (move : Move) :
    reached (moves ++ [move]) = (reached moves).after move := by
  unfold reached
  rw [List.foldl_append, List.foldl_cons, List.foldl_nil]

theorem after_of_ok (h : window.promote move.next move.fresh = .ok moved) : window.after move = moved := by
  unfold after
  rw [run_advance, h]

theorem after_of_error (h : window.promote move.next move.fresh = .error failure) :
    window.after move = window := by
  unfold after
  rw [run_advance, h]

/-- A move that is tried leaves two epochs in a row, or nothing. -/
theorem Aligned.after (h : window.Aligned) (move : Move) : (window.after move).Aligned := by
  have hpromotion := window.promotion_promote move.next move.fresh
  cases hpromote : window.promote move.next move.fresh with
  | ok moved =>
    rw [hpromote] at hpromotion
    rw [after_of_ok hpromote]
    exact hpromotion.aligned
  | error failure =>
    rw [after_of_error hpromote]
    exact h

/-- **Moves in any order leave two epochs in a row, or nothing.** -/
theorem aligned_reached (moves : List Move) : (reached moves).Aligned := by
  unfold reached
  generalize hstart : empty = start
  have haligned : start.Aligned := hstart ▸ aligned_empty
  clear hstart
  induction moves generalizing start with
  | nil => exact haligned
  | cons move moves ih => exact ih _ (haligned.after move)

/-! ## A further move -/

/-- The window has a schedule of the epoch right before that of a new next one. -/
def HoldsBefore (window : Window) (next : Schedule) : Prop :=
  ∃ schedule, window.Holds schedule ∧ schedule.epoch + 1 = next.epoch

theorem holdsBefore_of_staged (hstaged : window.staged? schedule.epoch = some schedule)
    (hnext : next.epoch = schedule.epoch + 1) : window.HoldsBefore next :=
  ⟨schedule, (staged?_eq_some hstaged).2, hnext.symm⟩

theorem not_holdsBefore (hstaged : window.staged? epoch = none) (hnext : next.epoch = epoch + 1) :
    ¬ window.HoldsBefore next := by
  rintro ⟨schedule, hholds, hepoch⟩
  exact staged?_eq_none_iff.mp hstaged schedule hholds (Nat.succ.inj (hepoch.trans hnext))

theorem one_le_of_next (hnext : next.epoch = epoch + 1) : 1 ≤ next.epoch := by
  rw [hnext]
  exact Nat.le_add_left 1 epoch

theorem not_one_le_of_first (hnext : next.epoch = 0) : ¬ 1 ≤ next.epoch := by
  rw [hnext]
  exact Nat.not_succ_le_zero 0

/-- A move succeeds exactly if the schedule that is to become current is at hand. -/
theorem exists_promote_iff :
    (∃ moved, window.promote next fresh = .ok moved) ↔
      1 ≤ next.epoch ∧
        (window.HoldsBefore next ∨ ∃ schedule, fresh = some schedule ∧ schedule.epoch + 1 = next.epoch) := by
  have hpromotion := window.promotion_promote next fresh
  generalize window.promote next fresh = out at hpromotion
  cases hpromotion with
  | staged hstaged hnext =>
    have hbefore := holdsBefore_of_staged hstaged hnext
    exact ⟨fun _ => ⟨one_le_of_next hnext, Or.inl hbefore⟩, fun _ => ⟨_, rfl⟩⟩
  | fetched hstaged hfresh hnext =>
    exact ⟨fun _ => ⟨one_le_of_next hnext, Or.inr ⟨_, hfresh, hnext.symm⟩⟩, fun _ => ⟨_, rfl⟩⟩
  | first hnext => exact ⟨nofun, fun ⟨hpos, _⟩ => absurd hpos (not_one_le_of_first hnext)⟩
  | missing hnext hstaged hfresh =>
    refine ⟨nofun, ?_⟩
    rintro ⟨_, hbefore | ⟨schedule, hschedule, _⟩⟩
    · exact absurd hbefore (not_holdsBefore hstaged hnext)
    · rw [hfresh] at hschedule
      cases hschedule
  | mismatched hnext hstaged hfresh hepoch =>
    refine ⟨nofun, ?_⟩
    rintro ⟨_, hbefore | ⟨schedule, hschedule, hbefore⟩⟩
    · exact absurd hbefore (not_holdsBefore hstaged hnext)
    · rw [hfresh] at hschedule
      cases hschedule
      exact absurd (Nat.succ.inj (hbefore.trans hnext)) hepoch

/-- What becomes current in a move that succeeds: the schedule in the window if there is one, else the fresh one. -/
theorem current_of_promote (haligned : window.Aligned) (h : window.promote next fresh = .ok moved) :
    moved.next = some next ∧
    (∀ schedule, window.Holds schedule → schedule.epoch + 1 = next.epoch → moved.current = some schedule) ∧
    (¬ window.HoldsBefore next → ∃ schedule, fresh = some schedule ∧ moved.current = some schedule) := by
  have hpromotion := window.promotion_promote next fresh
  rw [h] at hpromotion
  cases hpromotion with
  | @staged current hstaged hnext =>
    refine ⟨rfl, ?_, fun hnone => absurd (holdsBefore_of_staged hstaged hnext) hnone⟩
    intro schedule hholds hepoch
    -- The window has no second schedule of that epoch.
    have hsame : schedule.epoch = current.epoch := Nat.succ.inj (hepoch.trans hnext)
    exact congrArg some (haligned.eq_of_holds (staged?_eq_some hstaged).2 hholds hsame.symm)
  | fetched hstaged hfresh hnext =>
    refine ⟨rfl, ?_, fun _ => ⟨_, hfresh, rfl⟩⟩
    intro schedule hholds hepoch
    exact absurd ⟨schedule, hholds, hepoch⟩ (not_holdsBefore hstaged hnext)

/-- Why a move fails. -/
theorem failure_of_promote (h : window.promote next fresh = .error failure) :
    ((∃ what, failure = .unavailable what) ↔
      1 ≤ next.epoch ∧ ¬ window.HoldsBefore next ∧ fresh = none) ∧
    ((∃ what, failure = .unavailable what) ∨ ∃ expected actual, failure = .epochMismatch expected actual) := by
  have hpromotion := window.promotion_promote next fresh
  rw [h] at hpromotion
  cases hpromotion with
  | first hnext =>
    exact ⟨⟨nofun, fun ⟨hpos, _⟩ => absurd hpos (not_one_le_of_first hnext)⟩, Or.inr ⟨_, _, rfl⟩⟩
  | missing hnext hstaged hfresh =>
    exact ⟨⟨fun _ => ⟨one_le_of_next hnext, not_holdsBefore hstaged hnext, hfresh⟩, fun _ => ⟨_, rfl⟩⟩,
      Or.inl ⟨_, rfl⟩⟩
  | mismatched hnext hstaged hfresh hepoch =>
    refine ⟨⟨nofun, fun ⟨_, _, hnone⟩ => ?_⟩, Or.inr ⟨_, _, rfl⟩⟩
    rw [hfresh] at hnone
    cases hnone

/-- **A move after any other moves.** Whatever has been tried before, the window is empty or holds two epochs in a
row. The move succeeds exactly if the schedule of the epoch before the new next one is at hand, in the window or
fresh; then that schedule is the current one, and one from the window goes before a fresh one. A move that fails
changes nothing, and says whether the schedule was missing or of a wrong epoch. -/
theorem reached_promote (moves : List Move) (next : Schedule) (fresh : Option Schedule) :
    (reached moves).Aligned ∧
    ((∃ moved, (reached moves).promote next fresh = .ok moved) ↔
      1 ≤ next.epoch ∧ ((reached moves).HoldsBefore next ∨
        ∃ schedule, fresh = some schedule ∧ schedule.epoch + 1 = next.epoch)) ∧
    (∀ moved, (reached moves).promote next fresh = .ok moved →
      reached (moves ++ [⟨next, fresh⟩]) = moved ∧ moved.next = some next ∧
      (∀ schedule, (reached moves).Holds schedule → schedule.epoch + 1 = next.epoch →
        moved.current = some schedule) ∧
      (¬ (reached moves).HoldsBefore next →
        ∃ schedule, fresh = some schedule ∧ moved.current = some schedule)) ∧
    (∀ failure, (reached moves).promote next fresh = .error failure →
      reached (moves ++ [⟨next, fresh⟩]) = reached moves ∧
      ((∃ what, failure = .unavailable what) ↔
        1 ≤ next.epoch ∧ ¬ (reached moves).HoldsBefore next ∧ fresh = none) ∧
      ((∃ what, failure = .unavailable what) ∨
        ∃ expected actual, failure = .epochMismatch expected actual)) := by
  have haligned := aligned_reached moves
  refine ⟨haligned, exists_promote_iff, fun moved hok => ?_, fun failure herror => ?_⟩
  · rw [reached_append, after_of_ok hok]
    exact ⟨rfl, current_of_promote haligned hok⟩
  · rw [reached_append, after_of_error herror]
    exact ⟨rfl, failure_of_promote herror⟩

/-- A schedule without proposers, which is known by its number of assignments. -/
def vacant (epoch : Epoch) (assignmentCount : Nat) : Schedule where
  epoch := epoch
  length := ⟨4, by decide⟩
  table := Schedule.blank ⟨4, by decide⟩
  table_size := Array.size_replicate
  keys := ∅
  assignmentCount := assignmentCount

/-- One move that succeeds, and three that fail: with a fresh schedule of a wrong epoch, to the first epoch of the
chain, and without a fresh schedule. -/
def detour : List Move :=
  [⟨vacant 3 0, some (vacant 2 0)⟩, ⟨vacant 8 0, some (vacant 6 0)⟩, ⟨vacant 0 0, none⟩, ⟨vacant 9 0, none⟩]

/-- After the detour the window still has epochs 2 and 3. So a move to epoch 4 takes epoch 3 from the window although
a fresh schedule is given, a move back to epoch 3 keeps epoch 2, and a move to epoch 9 lacks epoch 8. -/
theorem reached_promote_detour :
    (∃ moved, (reached detour).promote (vacant 4 0) (some (vacant 3 1)) = .ok moved ∧
      reached (detour ++ [⟨vacant 4 0, some (vacant 3 1)⟩]) = moved ∧ moved.current = some (vacant 3 0)) ∧
    (∃ moved, (reached detour).promote (vacant 3 1) none = .ok moved ∧
      moved.current = some (vacant 2 0) ∧ moved.next = some (vacant 3 1)) ∧
    (∃ what, (reached detour).promote (vacant 9 0) none = .error (.unavailable what)) := by
  refine ⟨?_, ?_, ?_⟩
  · obtain ⟨_, hiff, hok, _⟩ := reached_promote detour (vacant 4 0) (some (vacant 3 1))
    obtain ⟨moved, hmoved⟩ := hiff.mpr ⟨by decide, Or.inl ⟨vacant 3 0, Or.inr rfl, rfl⟩⟩
    obtain ⟨hreached, _, hcurrent, _⟩ := hok moved hmoved
    exact ⟨moved, hmoved, hreached, hcurrent (vacant 3 0) (Or.inr rfl) rfl⟩
  · obtain ⟨_, hiff, hok, _⟩ := reached_promote detour (vacant 3 1) none
    obtain ⟨moved, hmoved⟩ := hiff.mpr ⟨by decide, Or.inl ⟨vacant 2 0, Or.inl rfl, rfl⟩⟩
    obtain ⟨_, hnext, hcurrent, _⟩ := hok moved hmoved
    exact ⟨moved, hmoved, hcurrent (vacant 2 0) (Or.inl rfl) rfl, hnext⟩
  · obtain ⟨_, _, _, herror⟩ := reached_promote detour (vacant 9 0) none
    obtain ⟨failure, hfailure⟩ : ∃ failure,
        (reached detour).promote (vacant 9 0) none = .error failure := ⟨_, rfl⟩
    obtain ⟨_, hunavailable, _⟩ := herror failure hfailure
    have hstaged : (reached detour).staged? 8 = none := rfl
    obtain ⟨what, rfl⟩ := hunavailable.mpr ⟨by decide, not_holdsBefore hstaged rfl, rfl⟩
    exact ⟨what, hfailure⟩

end Window
end DutyRelay
