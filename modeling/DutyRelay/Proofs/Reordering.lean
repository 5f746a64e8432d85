import Mathlib.Data.List.Nodup
import DutyRelay.Proofs.Roster

/-!
# The order of assignments

A build enters later claims over earlier ones, and later keys over earlier ones. Two things can therefore depend
on the order of the assignments: the proposer of a slot that two validators claim, and the key of a validator
that has several assignments. If neither is in doubt, every order gives the same schedule; and if one of them is,
some order gives another. That no slot is listed twice settles the first matter only.

## Contents
- `table_eq_of_proposer?`, `keys_eq_of_pubkey?`: a schedule is known by its answers.
- `SingleKeyed`, `Separate`: what the order could matter for.
- `proposer?_eq_some_iff`, `pubkey?_eq_some_iff`: answers in which the order does not occur.
- `exists_perm_last`: an assignment may be put last, and then it has the word.
- `build_reordered`: when the order matters; `settled`: duties that may come in any order.
- `rekeyed_depends_on_order`: two assignments of one validator, for two slots and with two keys.
-/

namespace DutyRelay

namespace Schedule

variable {length : EpochLength} {epoch : Epoch} {slot : Slot} {validator : ValidatorIndex} {key : PublicKey}
  {assignment : Assignment} {assignments reordered others : List Assignment}
  {schedule again : Schedule}

/-! ## A schedule is known by its answers -/

theorem table_eq_of_proposer? (hepoch : again.epoch = schedule.epoch)
    (hlength : again.length = schedule.length)
    (hproposer : ∀ slot, again.proposer? slot = schedule.proposer? slot) :
    again.table = schedule.table := by
  apply Array.ext
  · rw [again.table_size, schedule.table_size, hlength]
  · intro i hi hi'
    have hslot : i < schedule.length.slots := schedule.table_size ▸ hi'
    have hcell := hproposer (schedule.length.firstSlot schedule.epoch + i)
    rw [proposer?_firstSlot_add hslot, ← hepoch, ← hlength,
      proposer?_firstSlot_add (hlength ▸ hslot)] at hcell
    rwa [Array.getElem?_eq_getElem hi, Array.getElem?_eq_getElem hi', Option.join_some,
      Option.join_some] at hcell

theorem keys_eq_of_pubkey? (hpubkey : ∀ validator, again.pubkey? validator = schedule.pubkey? validator) :
    again.keys = schedule.keys :=
  Std.ExtTreeMap.ext_getElem? hpubkey

/-! ## What the order could matter for -/

/-- A validator that lists slots in several assignments has the same key in all of them. -/
def SingleKeyed (assignments : List Assignment) : Prop :=
  ∀ one ∈ assignments, ∀ two ∈ assignments, one.validator = two.validator →
    one.slots ≠ [] → two.slots ≠ [] → one.key = two.key

/-- No slot is listed by two different assignments. -/
def Separate (assignments : List Assignment) : Prop :=
  ∀ one ∈ assignments, ∀ two ∈ assignments, one ≠ two → ∀ slot ∈ one.slots, slot ∉ two.slots

instance (assignments : List Assignment) : Decidable (SingleKeyed assignments) :=
  inferInstanceAs (Decidable (∀ _ ∈ _, _))

instance (assignments : List Assignment) : Decidable (Separate assignments) :=
  inferInstanceAs (Decidable (∀ _ ∈ _, _))

/-- If no slot is listed by two assignments, no two validators claim one. -/
theorem Separate.not_contested (h : Separate assignments) : ¬ Contested assignments slot := by
  rintro ⟨validator, rival, hne, hclaim, hrival⟩
  obtain ⟨one, hone, hslot, rfl⟩ := mem_claimsOf.mp hclaim
  obtain ⟨two, htwo, hslot', rfl⟩ := mem_claimsOf.mp hrival
  have hdifferent : one ≠ two := fun hsame => hne (congrArg Assignment.validator hsame)
  exact h one hone two htwo hdifferent slot hslot hslot'

/-- If no validator has two assignments, none has two keys. -/
theorem singleKeyed_of_nodup (h : (assignments.map Assignment.validator).Nodup) :
    SingleKeyed assignments := by
  intro one hone two htwo hsame _ _
  rw [List.inj_on_of_nodup_map h hone htwo hsame]

/-! ## Answers in which the order does not occur -/

/-- Without a contested slot, whoever claims a slot proposes it. -/
theorem proposer?_eq_some_iff (h : build length epoch assignments = .ok schedule)
    (huncontested : ∀ slot, ¬ Contested assignments slot) :
    schedule.proposer? slot = some validator ↔ (⟨slot, validator⟩ : Claim) ∈ claimsOf assignments := by
  rw [proposer?_of_build h]
  constructor
  · exact mem_of_lastClaimant?
  · intro hclaim
    obtain ⟨winner, _, hwinner, _⟩ := exists_winner hclaim
    have hsame : winner = validator := by
      by_contra hne
      exact huncontested slot ⟨winner, validator, hne, mem_of_lastClaimant? hwinner, hclaim⟩
    rw [← hsame]
    exact hwinner

/-- With one key for each validator, a validator that lists a slot has that key. -/
theorem pubkey?_eq_some_iff (h : build length epoch assignments = .ok schedule)
    (hkeyed : SingleKeyed assignments) :
    schedule.pubkey? validator = some key ↔
      ∃ assignment ∈ assignments, assignment.validator = validator ∧ assignment.key = key ∧
        assignment.slots ≠ [] := by
  constructor
  · exact assignment_of_pubkey? h
  · rintro ⟨assignment, hmem, rfl, rfl, hslots⟩
    obtain ⟨key, hkey⟩ := Option.isSome_iff_exists.mp
      ((pubkey?_isSome_iff h).mpr ⟨assignment, hmem, rfl, hslots⟩)
    obtain ⟨source, hsource, hvalidator, rfl, hlisting⟩ := assignment_of_pubkey? h hkey
    rw [hkey, hkeyed source hsource assignment hmem hvalidator hlisting hslots]

/-! ## Any order -/

theorem mem_claimsOf_perm (hperm : assignments.Perm reordered) {claim : Claim} :
    claim ∈ claimsOf reordered ↔ claim ∈ claimsOf assignments := by
  simp only [mem_claimsOf, hperm.mem_iff]

theorem contested_perm (hperm : assignments.Perm reordered) :
    Contested reordered slot ↔ Contested assignments slot := by
  unfold Contested
  simp only [mem_claimsOf_perm hperm]

theorem SingleKeyed.perm (h : SingleKeyed assignments) (hperm : assignments.Perm reordered) :
    SingleKeyed reordered := by
  intro one hone two htwo
  exact h one (hperm.mem_iff.mpr hone) two (hperm.mem_iff.mpr htwo)

/-- Assignments that can be built from can be built from in any order. -/
theorem exists_build_perm (h : build length epoch assignments = .ok schedule)
    (hperm : assignments.Perm reordered) :
    ∃ again, build length epoch reordered = .ok again := by
  have hinside := strayFault?_eq_none_iff.mp (strayFault_none_of_build h)
  obtain ⟨again, hagain, _⟩ := build_of_strayFault_none <| strayFault?_eq_none_iff.mpr
    fun assignment hmem => hinside assignment (hperm.mem_iff.mpr hmem)
  exact ⟨again, hagain⟩

/-- Without a contested slot the table is the same for every order. -/
theorem table_perm (h : build length epoch assignments = .ok schedule) (hperm : assignments.Perm reordered)
    (hagain : build length epoch reordered = .ok again)
    (huncontested : ∀ slot, ¬ Contested assignments slot) : again.table = schedule.table := by
  obtain ⟨_, hepoch, hlength, _⟩ := eq_of_build h
  obtain ⟨_, hepoch', hlength', _⟩ := eq_of_build hagain
  apply table_eq_of_proposer? (hepoch'.trans hepoch.symm) (hlength'.trans hlength.symm)
  intro slot
  apply Option.ext
  intro validator
  have huncontested' : ∀ slot, ¬ Contested reordered slot :=
    fun slot hcontested => huncontested slot ((contested_perm hperm).mp hcontested)
  rw [proposer?_eq_some_iff hagain huncontested', proposer?_eq_some_iff h huncontested,
    mem_claimsOf_perm hperm]

/-- With one key for each validator the keys are the same for every order. -/
theorem keys_perm (h : build length epoch assignments = .ok schedule) (hperm : assignments.Perm reordered)
    (hagain : build length epoch reordered = .ok again) (hkeyed : SingleKeyed assignments) :
    again.keys = schedule.keys := by
  apply keys_eq_of_pubkey?
  intro validator
  apply Option.ext
  intro key
  rw [pubkey?_eq_some_iff hagain (hkeyed.perm hperm), pubkey?_eq_some_iff h hkeyed]
  simp only [hperm.mem_iff]

theorem build_perm (h : build length epoch assignments = .ok schedule) (hperm : assignments.Perm reordered)
    (huncontested : ∀ slot, ¬ Contested assignments slot) (hkeyed : SingleKeyed assignments) :
    build length epoch reordered = .ok schedule := by
  obtain ⟨again, hagain⟩ := exists_build_perm h hperm
  obtain ⟨_, hepoch, hlength, _, _, hcount⟩ := eq_of_build h
  obtain ⟨_, hepoch', hlength', _, _, hcount'⟩ := eq_of_build hagain
  have hsame : again = schedule := by
    apply Schedule.ext
    · exact hepoch'.trans hepoch.symm
    · exact hlength'.trans hlength.symm
    · exact table_perm h hperm hagain huncontested
    · exact keys_perm h hperm hagain hkeyed
    · rw [hcount', hcount, hperm.length_eq]
  rw [hagain, hsame]

/-! ## The assignment that comes last -/

/-- Any assignment may be put last. -/
theorem exists_perm_last (hmem : assignment ∈ assignments) :
    ∃ others, assignments.Perm (others ++ [assignment]) := by
  refine ⟨assignments.erase assignment, ?_⟩
  exact (List.perm_cons_erase hmem).trans (List.perm_append_singleton _ _).symm

theorem getLast?_filter_concat {α : Type} {p : α → Bool} {entries : List α} {entry : α}
    (hselected : p entry = true) : ((entries ++ [entry]).filter p).getLast? = some entry := by
  rw [List.filter_append, List.filter_cons_of_pos hselected, List.filter_nil, List.getLast?_concat]

theorem proposer?_of_last (h : build length epoch (others ++ [assignment]) = .ok schedule)
    (hslot : slot ∈ assignment.slots) : schedule.proposer? slot = some assignment.validator := by
  have hlast : lastLister? (others ++ [assignment]) slot = some assignment :=
    getLast?_filter_concat (decide_eq_true hslot)
  rw [(records_of_build h).proposer, hlast]
  rfl

theorem pubkey?_of_last (h : build length epoch (others ++ [assignment]) = .ok schedule)
    (hslots : assignment.slots ≠ []) : schedule.pubkey? assignment.validator = some assignment.key := by
  have hlast : lastDuty? (others ++ [assignment]) assignment.validator = some assignment :=
    getLast?_filter_concat (decide_eq_true ⟨rfl, hslots⟩)
  rw [(records_of_build h).pubkey, hlast]
  rfl

/-- If every order gives the same schedule, every claimant of a slot proposes it, -/
theorem not_contested_of_stable
    (hstable : ∀ reordered, assignments.Perm reordered → build length epoch reordered = .ok schedule) :
    ¬ Contested assignments slot := by
  have hproposer : ∀ claim ∈ claimsOf assignments, schedule.proposer? claim.slot = some claim.validator := by
    intro claim hclaim
    obtain ⟨assignment, hmem, hslot, hvalidator⟩ := mem_claimsOf.mp hclaim
    obtain ⟨others, hperm⟩ := exists_perm_last hmem
    rw [hvalidator]
    exact proposer?_of_last (hstable _ hperm) hslot
  rintro ⟨validator, rival, hne, hclaim, hrival⟩
  exact hne (Option.some.inj ((hproposer _ hclaim).symm.trans (hproposer _ hrival)))

/-- and every key of a validator is the one on record. -/
theorem singleKeyed_of_stable
    (hstable : ∀ reordered, assignments.Perm reordered → build length epoch reordered = .ok schedule) :
    SingleKeyed assignments := by
  have hpubkey : ∀ assignment ∈ assignments, assignment.slots ≠ [] →
      schedule.pubkey? assignment.validator = some assignment.key := by
    intro assignment hmem hslots
    obtain ⟨others, hperm⟩ := exists_perm_last hmem
    exact pubkey?_of_last (hstable _ hperm) hslots
  intro one hone two htwo hsame hslots hslots'
  have hkey := hpubkey one hone hslots
  rw [hsame, hpubkey two htwo hslots'] at hkey
  exact (Option.some.inj hkey).symm

/-! ## When the order matters -/

/-- **When the order of assignments matters.** Assignments that can be built from can be built from in any order,
with the same table if no slot is contested, and with the same keys if no validator comes with two. All orders
give the same schedule exactly if both is the case. So for assignments of which no two list the same slot, it is
the keys alone that decide; and they are in no doubt if no validator has two assignments. -/
theorem build_reordered (h : build length epoch assignments = .ok schedule) :
    (∀ reordered, assignments.Perm reordered → ∃ again, build length epoch reordered = .ok again ∧
      again.assignmentCount = schedule.assignmentCount ∧
      ((∀ slot, ¬ Contested assignments slot) → again.table = schedule.table) ∧
      (SingleKeyed assignments → again.keys = schedule.keys)) ∧
    ((∀ reordered, assignments.Perm reordered → build length epoch reordered = .ok schedule) ↔
      (∀ slot, ¬ Contested assignments slot) ∧ SingleKeyed assignments) ∧
    (Separate assignments →
      ((∀ reordered, assignments.Perm reordered → build length epoch reordered = .ok schedule) ↔
        SingleKeyed assignments)) ∧
    ((assignments.map Assignment.validator).Nodup → SingleKeyed assignments) := by
  have hstable : (∀ reordered, assignments.Perm reordered → build length epoch reordered = .ok schedule) ↔
      (∀ slot, ¬ Contested assignments slot) ∧ SingleKeyed assignments := by
    constructor
    · intro hstable
      exact ⟨fun slot => not_contested_of_stable hstable, singleKeyed_of_stable hstable⟩
    · rintro ⟨huncontested, hkeyed⟩ reordered hperm
      exact build_perm h hperm huncontested hkeyed
  refine ⟨?_, hstable, ?_, singleKeyed_of_nodup⟩
  · intro reordered hperm
    obtain ⟨again, hagain⟩ := exists_build_perm h hperm
    refine ⟨again, hagain, ?_, table_perm h hperm hagain, keys_perm h hperm hagain⟩
    rw [(records_of_build hagain).count, (records_of_build h).count, hperm.length_eq]
  · intro hseparate
    rw [hstable]
    exact and_iff_right fun slot => hseparate.not_contested

/-- Validator 1 has two assignments, with the same key. -/
def settled : List Assignment := [⟨1, ⟨[0xaa]⟩, [8, 11]⟩, ⟨2, ⟨[0xbb]⟩, [9]⟩, ⟨1, ⟨[0xaa]⟩, [10]⟩]

theorem settled_in_any_order :
    ∃ schedule, build ⟨4, by decide⟩ 2 settled = .ok schedule ∧ Separate settled ∧
      ∀ reordered, settled.Perm reordered → build ⟨4, by decide⟩ 2 reordered = .ok schedule := by
  obtain ⟨schedule, hbuild⟩ : ∃ schedule, build ⟨4, by decide⟩ 2 settled = .ok schedule := ⟨_, rfl⟩
  have hseparate : Separate settled := by decide
  exact ⟨schedule, hbuild, hseparate, ((build_reordered hbuild).2.2.1 hseparate).mpr (by decide)⟩

/-- Validator 1 has two assignments, for two slots and with two keys. -/
def rekeyed : List Assignment := [⟨1, ⟨[0xaa]⟩, [8]⟩, ⟨1, ⟨[0xbb]⟩, [9]⟩]

/-- **The order may matter although no slot is listed twice.** The key of a validator is the last one that comes
with a slot, for all of its slots. -/
theorem rekeyed_depends_on_order :
    (∃ schedule again, build ⟨4, by decide⟩ 2 rekeyed = .ok schedule ∧
      build ⟨4, by decide⟩ 2 rekeyed.reverse = .ok again ∧
      schedule.pubkey? 1 = some ⟨[0xbb]⟩ ∧ again.pubkey? 1 = some ⟨[0xaa]⟩) ∧
    ¬ ∀ length epoch assignments schedule, build length epoch assignments = .ok schedule →
      Separate assignments → ∀ reordered, assignments.Perm reordered →
        build length epoch reordered = .ok schedule := by
  obtain ⟨schedule, again, hbuild, hagain, hkey, hkey'⟩ :
      ∃ schedule again, build ⟨4, by decide⟩ 2 rekeyed = .ok schedule ∧
        build ⟨4, by decide⟩ 2 rekeyed.reverse = .ok again ∧
        schedule.pubkey? 1 = some ⟨[0xbb]⟩ ∧ again.pubkey? 1 = some ⟨[0xaa]⟩ := ⟨_, _, rfl, rfl, rfl, rfl⟩
  refine ⟨⟨schedule, again, hbuild, hagain, hkey, hkey'⟩, fun hstable => ?_⟩
  have hsame := hstable _ _ _ _ hbuild (by decide) _ (List.reverse_perm rekeyed).symm
  obtain rfl : again = schedule := Except.ok.inj (hagain.symm.trans hsame)
  cases hkey.symm.trans hkey'

end Schedule
end DutyRelay
