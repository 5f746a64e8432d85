import DutyRelay.Proofs.LastWord
import DutyRelay.Proofs.Roster
import DutyRelay.Proofs.Rotation
import DutyRelay.Relay

/-!
# Which schedule answers

A question about an epoch looks for the schedule of that epoch in the current one first; a move to a new window looks
in the next one first. In a window with two schedules of one epoch they would find different ones. No order of moves
leads to such a window, so that proposers, keys and moves all rest on one and the same schedule, for the relay as for
readers with a copy of the window.

## Contents
- `exists_find?`, `Aligned.find?_eq_some_iff_holds`: what a search finds in any order.
- `Aligned.selected_iff`, `Aligned.staged?_eq_find?`: questions and moves find the same schedule.
- `exists_pubkey?_of_lookup?`: a proposer that is found has a key.
- `reached_answers`: all questions to a window after any moves.
- `handed_on_answers`: a schedule that was next and becomes current.
-/

namespace DutyRelay

namespace Window

variable {window : Window} {epoch : Epoch} {schedule : Schedule} {slot : Slot} {validator : ValidatorIndex}

/-! ## Searches -/

/-- Where there is a schedule of the epoch, one is found. -/
theorem exists_find? {entries : List (Option Schedule)} (hentry : some schedule ∈ entries)
    (hepoch : schedule.epoch = epoch) :
    ∃ found, entries.reduceOption.find? (fun schedule => schedule.epoch = epoch) = some found := by
  apply Option.isSome_iff_exists.mp
  rw [List.find?_isSome]
  exact ⟨schedule, List.mem_filterMap.mpr ⟨some schedule, hentry, rfl⟩, decide_eq_true hepoch⟩

/-- **Every search through an aligned window finds the one schedule of the epoch**, whatever its order. -/
theorem Aligned.find?_eq_some_iff_holds {entries : List (Option Schedule)} (h : window.Aligned)
    (hentries : ∀ schedule, some schedule ∈ entries ↔ window.Holds schedule) :
    entries.reduceOption.find? (fun schedule => schedule.epoch = epoch) = some schedule ↔
      window.Holds schedule ∧ schedule.epoch = epoch := by
  constructor
  · intro hfound
    obtain ⟨hepoch, hentry⟩ := mem_of_find? hfound
    exact ⟨(hentries schedule).mp hentry, hepoch⟩
  · rintro ⟨hholds, hepoch⟩
    obtain ⟨found, hfound⟩ := exists_find? ((hentries schedule).mpr hholds) hepoch
    obtain ⟨hepoch', hentry⟩ := mem_of_find? hfound
    have hsame : found = schedule :=
      h.eq_of_holds ((hentries found).mp hentry) hholds (hepoch'.trans hepoch.symm)
    rw [hfound, hsame]

theorem Aligned.selected_iff (h : window.Aligned) :
    window.find? epoch = some schedule ↔ window.Holds schedule ∧ schedule.epoch = epoch := by
  apply h.find?_eq_some_iff_holds
  intro schedule
  simp [Holds, eq_comm]

theorem Aligned.staged_iff (h : window.Aligned) :
    window.staged? epoch = some schedule ↔ window.Holds schedule ∧ schedule.epoch = epoch := by
  apply h.find?_eq_some_iff_holds
  intro schedule
  simp [Holds, eq_comm, or_comm]

/-- Questions and moves find the same schedule. -/
theorem Aligned.staged?_eq_find? (h : window.Aligned) : window.staged? epoch = window.find? epoch := by
  ext schedule
  exact h.staged_iff.trans h.selected_iff.symm

/-! ## Answers -/

/-- A proposer that is found comes from a schedule of the epoch, in which the slot lies. -/
theorem exists_find?_of_lookup? (h : window.lookup? epoch slot = some validator) :
    ∃ schedule, window.find? epoch = some schedule ∧ schedule.length.epochOf slot = epoch ∧
      schedule.proposer? slot = some validator := by
  obtain ⟨schedule, hfind, hproposer⟩ := Option.bind_eq_some_iff.mp h
  have hslot : schedule.length.epochOf slot = schedule.epoch :=
    Schedule.epochOf_of_proposer? (Option.isSome_of_eq_some hproposer)
  exact ⟨schedule, hfind, hslot.trans (find?_eq_some hfind).1, hproposer⟩

/-- The proposer has a key there if that schedule was built from assignments. -/
theorem exists_pubkey?_of_proposer? {length : EpochLength} {made : Epoch} (hfind : window.find? epoch = some schedule)
    (hproposer : schedule.proposer? slot = some validator) (hmade : schedule.IsOf length made) :
    ∃ key, window.pubkey? epoch validator = some key := by
  obtain ⟨assignments, hbuild⟩ := hmade
  obtain ⟨key, hkey⟩ := Schedule.exists_key_of_proposer? hbuild hproposer
  refine ⟨key, ?_⟩
  unfold pubkey?
  rw [hfind]
  exact hkey

/-- **All questions are answered from one schedule.** Whatever moves have been tried, an epoch has at most one schedule
in the window. From it, or from none, come the proposers and the keys of that epoch, the proposers that a reader
finds in a copy of the window, and the schedule for the next move. A proposer that is found belongs to a slot of the
epoch, and its key is found as well if the schedule was built from assignments. -/
theorem reached_answers (moves : List Move) (epoch : Epoch) :
    ∃ selected : Option Schedule,
      (∀ schedule, selected = some schedule ↔ (reached moves).Holds schedule ∧ schedule.epoch = epoch) ∧
      (reached moves).staged? epoch = selected ∧
      (∀ slot, (reached moves).lookup? epoch slot = selected.bind fun schedule => schedule.proposer? slot) ∧
      (∀ validator, (reached moves).pubkey? epoch validator =
        selected.bind fun schedule => schedule.pubkey? validator) ∧
      (∀ (broadcast : Broadcast Window) (slot : Slot), (broadcast.send (reached moves)).value.lookup? epoch slot =
        selected.bind fun schedule => schedule.proposer? slot) ∧
      (∀ slot validator, (reached moves).lookup? epoch slot = some validator →
        ∃ schedule, selected = some schedule ∧ schedule.length.epochOf slot = epoch ∧
          schedule.proposer? slot = some validator ∧
          ∀ length made, schedule.IsOf length made → ∃ key, (reached moves).pubkey? epoch validator = some key) := by
  have haligned := aligned_reached moves
  refine ⟨(reached moves).find? epoch, fun schedule => haligned.selected_iff, haligned.staged?_eq_find?,
    fun slot => rfl, fun validator => rfl, fun broadcast slot => rfl, fun slot validator hlookup => ?_⟩
  obtain ⟨schedule, hfind, hslot, hproposer⟩ := exists_find?_of_lookup? hlookup
  refine ⟨schedule, hfind, hslot, hproposer, fun length made hmade => ?_⟩
  exact exists_pubkey?_of_proposer? hfind hproposer hmade

/-- Epochs 2 and 3 are in the window, and then epochs 3 and 4. The schedule of epoch 3 would be current before the
second move and after it, and has the answers; epoch 2 is known to those only who have kept a copy. -/
theorem handed_on_answers :
    ∃ two three four,
      Schedule.build ⟨4, by decide⟩ 2 [⟨1, ⟨[0xaa]⟩, [8]⟩] = .ok two ∧
      Schedule.build ⟨4, by decide⟩ 3 [⟨5, ⟨[0xbb]⟩, [12]⟩] = .ok three ∧
      Schedule.build ⟨4, by decide⟩ 4 [] = .ok four ∧
      (reached [⟨three, some two⟩]).lookup? 2 8 = some 1 ∧
      (reached [⟨three, some two⟩]).staged? 3 = some three ∧
      (reached [⟨three, some two⟩, ⟨four, none⟩]).lookup? 2 8 = none ∧
      (reached [⟨three, some two⟩, ⟨four, none⟩]).lookup? 3 12 = some 5 ∧
      (reached [⟨three, some two⟩, ⟨four, none⟩]).staged? 3 = some three ∧
      ∃ key, (reached [⟨three, some two⟩, ⟨four, none⟩]).pubkey? 3 5 = some key := by
  obtain ⟨two, three, four, htwo, hthree, hfour, hbefore, hstaged, hafter, hlookup, hholds, hepoch⟩ :
      ∃ two three four,
        Schedule.build ⟨4, by decide⟩ 2 [⟨1, ⟨[0xaa]⟩, [8]⟩] = .ok two ∧
        Schedule.build ⟨4, by decide⟩ 3 [⟨5, ⟨[0xbb]⟩, [12]⟩] = .ok three ∧
        Schedule.build ⟨4, by decide⟩ 4 [] = .ok four ∧
        (reached [⟨three, some two⟩]).lookup? 2 8 = some 1 ∧
        (reached [⟨three, some two⟩]).staged? 3 = some three ∧
        (reached [⟨three, some two⟩, ⟨four, none⟩]).lookup? 2 8 = none ∧
        (reached [⟨three, some two⟩, ⟨four, none⟩]).lookup? 3 12 = some 5 ∧
        (reached [⟨three, some two⟩, ⟨four, none⟩]).Holds three ∧ three.epoch = 3 :=
    ⟨_, _, _, rfl, rfl, rfl, rfl, rfl, rfl, rfl, Or.inl rfl, rfl⟩
  obtain ⟨selected, hselected, hstaged', _, _, _, hkey⟩ := reached_answers [⟨three, some two⟩, ⟨four, none⟩] 3
  have hthree' : selected = some three := (hselected three).mpr ⟨hholds, hepoch⟩
  obtain ⟨schedule, hschedule, _, _, hmade⟩ := hkey 12 5 hlookup
  obtain rfl : three = schedule := Option.some.inj (hthree'.symm.trans hschedule)
  exact ⟨two, three, four, htwo, hthree, hfour, hbefore, hstaged, hafter, hlookup, hstaged'.trans hthree',
    hmade _ _ ⟨_, hthree⟩⟩

end Window
end DutyRelay
