import DutyRelay.Proofs.Comparison
import DutyRelay.Proofs.Provenance
import DutyRelay.Proofs.Revalidation

/-!
# A beacon node that does not change its mind

Suppose that whatever the beacon node answers about an epoch, now or later, is one list of duties, and that in
no such list two validators claim one slot. Then the schedule that waits in the window for the next epoch is
made of the list that is fetched once this epoch is current, however many ticks failed in between and however
many epochs were missed. So no comparison finds a conflict, and a refresh can fail for other reasons only.

## Contents
- `Steady`: every answer about an epoch is one list of duties.
- `CurrentAnswer.eq_of_steady`, `Run.built_of_staged`: the staged schedule is made of that list.
- `Run.agrees`: no comparison finds a conflict.
- `Refreshes.smooth`: what the nodes have to reply for a refresh to go through.
- `OpenTalk.exists_conflict`: a conflict is one that a comparison found, or that was replied.
- `steady_run`: all of it together; `faltering`: a run with failures and a gap.
-/

namespace DutyRelay

namespace Relay

variable {relay : Relay} {state : State} {turns earlier : List Turn} {turn : Turn} {epoch : Epoch}
  {answers : Epoch → List Assignment} {cached : Schedule} {fresh : List Assignment}
  {talk : List (Exchange Inquiries)} {window : Window} {firstRun : Bool}

/-! ## Steady answers -/

/-- Whatever is answered about an epoch in the turns, as the next one or as the current one, is one list. -/
structure Steady (answers : Epoch → List Assignment) (turns : List Turn) : Prop where
  upcoming : ∀ turn ∈ turns, ∀ epoch assignments,
    ⟨.upcoming, .ok (epoch, assignments)⟩ ∈ turn.talk → assignments = answers epoch
  duties : ∀ turn ∈ turns, ∀ epoch assignments,
    ⟨.duties epoch, .ok assignments⟩ ∈ turn.talk → assignments = answers epoch

theorem Steady.mono (h : Steady answers turns) (hearlier : ∀ turn ∈ earlier, turn ∈ turns) :
    Steady answers earlier :=
  ⟨fun turn hturn => h.upcoming turn (hearlier turn hturn),
    fun turn hturn => h.duties turn (hearlier turn hturn)⟩

/-- The answer that a current schedule is made of is the steady one, whichever way it has come. -/
theorem CurrentAnswer.eq_of_steady {assignments : List Assignment}
    (h : CurrentAnswer earlier turn epoch assignments) (hsteady : Steady answers turns)
    (hearlier : ∀ turn ∈ earlier, turn ∈ turns) (hturn : turn ∈ turns) : assignments = answers epoch := by
  cases h with
  | @handedOn previous before hprevious _ _ hanswers =>
    have hmem : previous ∈ earlier := List.mem_of_getLast? hprevious
    refine hsteady.upcoming previous (hearlier previous hmem) epoch assignments ?_
    rw [← mem_upcomingAnswers_iff, hanswers]
    exact List.mem_cons_self
  | fetched _ hanswers =>
    refine hsteady.duties turn hturn epoch assignments ?_
    rw [← mem_dutyAnswers_iff, hanswers]
    exact List.mem_cons_self

/-- **The staged schedule is made of the steady answer**, after every run with steady answers. -/
theorem Run.built_of_staged (hrun : relay.Run State.start turns state) (hsteady : Steady answers turns)
    (hstaged : state.window.staged? epoch = some cached) :
    Schedule.build relay.length epoch (answers epoch) = .ok cached := by
  rcases hrun.coherent with hfresh | ⟨last, hsynced⟩
  · rw [hfresh.window, Window.staged?_empty] at hstaged
    cases hstaged
  · obtain ⟨earlier, turn, duties, upcoming, hturns, hsourced⟩ := hrun.sourced hsynced.lastProcessed
    have hcommitted : ∀ t ∈ earlier ++ [turn], t ∈ turns := by
      intro t ht
      rw [← hturns] at ht
      exact (List.mem_filter.mp ht).1
    have hturn : turn ∈ turns := hcommitted turn (by simp)
    have hduties : duties = answers last := hsourced.current_answer.eq_of_steady hsteady
      (fun t ht => hcommitted t (List.mem_append_left _ ht)) hturn
    have hupcoming : upcoming = answers (last + 1) := by
      refine hsteady.upcoming turn hturn _ _ ?_
      rw [← mem_upcomingAnswers_iff, hsourced.next_answer]
      exact List.mem_cons_self
    obtain ⟨current, next, hwindow, hcurrent, hnext⟩ := hsourced.built
    obtain ⟨hepoch, hmem⟩ := Window.staged?_eq_some hstaged
    rw [hwindow] at hmem
    -- The schedule is of the epoch of the list that it is made of.
    rcases hmem with hmem | hmem
    · cases hmem
      rw [← hepoch, Schedule.epoch_of_build hcurrent, ← hduties]
      exact hcurrent
    · cases hmem
      rw [← hepoch, Schedule.epoch_of_build hnext, ← hupcoming]
      exact hnext

/-! ## No comparison finds a conflict -/

/-- **Steady duties agree with the schedule that waits for them.** -/
theorem Run.agrees (hrun : relay.Run State.start turns state) (hsteady : Steady answers turns)
    (huncontested : ∀ epoch slot, ¬ Schedule.Contested (answers epoch) slot) (hturn : turn ∈ turns)
    (hcompares : turn.Compares relay epoch cached fresh) : cached.checkFresh fresh = .ok () := by
  obtain ⟨talk, verdict, hrefreshes, hverdict⟩ := hcompares
  obtain ⟨out, hopen, _⟩ := hrefreshes.openTalk
  obtain ⟨hstaged, hduties, _⟩ := hopen.compare_iff.mp ⟨verdict, hverdict⟩
  obtain rfl : fresh = answers epoch :=
    hsteady.duties turn hturn epoch fresh (hrefreshes.mem_duties_iff.mpr hduties)
  obtain ⟨before, after, rfl⟩ := List.append_of_mem hturn
  have hbuild := hrun.reaches.built_of_staged
    (hsteady.mono fun t ht => List.mem_append_left _ ht) hstaged
  exact Schedule.checkFresh_of_uncontested hbuild (huncontested epoch)

/-! ## What a refresh comes to -/

/-- What the nodes have to reply for everything to go smoothly, besides that no comparison finds a conflict. -/
theorem Turn.Refreshes.smooth (h : turn.Refreshes relay epoch talk)
    (hanswered : ∀ exchange ∈ turn.talk, ∃ value, exchange.reply = .ok value)
    (hupcoming : ∀ reported assignments, ⟨.upcoming, .ok (reported, assignments)⟩ ∈ turn.talk →
      reported = epoch + 1 ∧ Schedule.strayFault? relay.length (epoch + 1) assignments = none)
    (hduties : ∀ assignments, ⟨.duties epoch, .ok assignments⟩ ∈ turn.talk →
      Schedule.strayFault? relay.length epoch assignments = none)
    (hagreed : ∀ cached fresh, turn.Compares relay epoch cached fresh → cached.checkFresh fresh = .ok ()) :
    relay.Smooth epoch talk where
  answered := by
    intro query reply hmem
    obtain ⟨head, _, htalk⟩ := h.talk_eq
    have hsaid : ⟨query, reply⟩ ∈ turn.talk := by
      rw [htalk]
      exact List.mem_cons_of_mem _ (mem_nodes_iff.mpr hmem)
    exact hanswered _ hsaid
  upcoming := by
    intro reported assignments hmem
    obtain ⟨hreported, hstray⟩ := hupcoming reported assignments (h.mem_upcoming_iff.mpr hmem)
    obtain ⟨next, hbuild, _⟩ := Schedule.build_of_strayFault_none hstray
    exact ⟨hreported, next, hbuild⟩
  duties := by
    intro assignments hmem
    obtain ⟨schedule, hbuild, _⟩ :=
      Schedule.build_of_strayFault_none (hduties assignments (h.mem_duties_iff.mpr hmem))
    exact ⟨schedule, hbuild⟩
  agreed := by
    intro cached fresh verdict hverdict
    rw [h.settled cached fresh verdict hverdict]
    exact hagreed cached fresh ⟨talk, verdict, h, hverdict⟩

theorem Turn.Refreshes.commits (h : turn.Refreshes relay epoch talk) (hsmooth : relay.Smooth epoch talk) :
    ∃ acknowledgement, turn.result = .ok (.committed epoch acknowledgement) := by
  obtain ⟨out, hopen, hresult⟩ := h.openTalk
  obtain ⟨refreshed, rfl⟩ := hopen.exists_ok hsmooth
  exact ⟨refreshed.2, hresult⟩

/-- A turn that fails for a conflict has found it in a comparison, unless a node has replied it. -/
theorem replied_or_compared {found : Epoch} {count : Nat}
    (htick : (relay.tick turn.before).Leads turn.talk (turn.result, turn.after))
    (hresult : turn.result = .error (.conflict found count)) :
    (∃ query, ⟨query, .error (.conflict found count)⟩ ∈ turn.talk) ∨
      ∃ epoch cached fresh, turn.Compares relay epoch cached fresh ∧
        cached.checkFresh fresh = .error (.conflict found count) := by
  obtain ⟨replies, hcourse⟩ := tick_leads_iff.mp htick
  rw [hresult] at hcourse
  generalize htalk : turn.talk = said at hcourse
  generalize turn.after = after at hcourse
  cases hcourse with
  | unseen hhead => exact Or.inl ⟨.head, List.mem_cons_self⟩
  | @aborted head epoch firstRun failure hhead hdue hfault =>
    obtain ⟨rfl, _, hisDue⟩ := Progress.transition_eq_due_iff.mp hdue
    have hsees : turn.Sees head := by
      unfold Turn.Sees
      rw [htalk]
      rfl
    obtain ⟨talk, hrefreshes⟩ := exists_refreshes htick hsees hisDue
    obtain ⟨out, hopen, hout⟩ := hrefreshes.openTalk
    cases out with
    | ok refreshed => cases hresult.symm.trans hout
    | error failure' =>
      cases hresult.symm.trans hout
      rcases hopen.exists_conflict with ⟨query, hmem⟩ | ⟨cached, fresh, hmem⟩
      · obtain ⟨_, _, heq⟩ := hrefreshes.talk_eq
        rw [← htalk, heq]
        exact Or.inl ⟨query, List.mem_cons_of_mem _ (mem_nodes_iff.mpr hmem)⟩
      · exact Or.inr ⟨_, cached, fresh, ⟨talk, _, hrefreshes, hmem⟩,
          (hrefreshes.settled cached fresh _ hmem).symm⟩

/-! ## A whole run -/

/-- **Steady duties never conflict.** If all that the beacon node answers about an epoch over a run is one list
of duties, and no slot of it is contested, then no comparison finds a conflict and no turn fails for one, unless
a node replies this failure itself. So wherever a refresh is due, all questions are answered, the answer about
the next epoch is for the epoch after this one, and the slots lie in their epochs, the refresh is completed. The
heads, the settings, the failures of other turns and the epochs missed do not matter. -/
theorem steady_run (hrun : relay.Run State.start turns state) (hsteady : Steady answers turns)
    (huncontested : ∀ epoch slot, ¬ Schedule.Contested (answers epoch) slot) :
    (∀ turn ∈ turns, ∀ epoch cached fresh, turn.Compares relay epoch cached fresh →
      cached.checkFresh fresh = .ok ()) ∧
    (∀ turn ∈ turns, ∀ found count, turn.result = .error (.conflict found count) →
      ∃ query, ⟨query, .error (.conflict found count)⟩ ∈ turn.talk) ∧
    (∀ turn ∈ turns, ∀ head epoch, turn.Sees head → relay.length.epochOf head = epoch →
      turn.before.progress.IsDue epoch →
      (∀ exchange ∈ turn.talk, ∃ value, exchange.reply = .ok value) →
      (∀ reported assignments, ⟨.upcoming, .ok (reported, assignments)⟩ ∈ turn.talk →
        reported = epoch + 1 ∧
          ∀ assignment ∈ assignments, ∀ slot ∈ assignment.slots, relay.length.epochOf slot = epoch + 1) →
      (∀ assignments, ⟨.duties epoch, .ok assignments⟩ ∈ turn.talk →
        ∀ assignment ∈ assignments, ∀ slot ∈ assignment.slots, relay.length.epochOf slot = epoch) →
      ∃ acknowledgement, turn.result = .ok (.committed epoch acknowledgement)) := by
  have hagrees : ∀ turn ∈ turns, ∀ epoch cached fresh, turn.Compares relay epoch cached fresh →
      cached.checkFresh fresh = .ok () := fun turn hturn epoch cached fresh hcompares =>
    hrun.agrees hsteady huncontested hturn hcompares
  refine ⟨hagrees, ?_, ?_⟩
  · intro turn hturn found count hresult
    rcases replied_or_compared (hrun.tick_of_mem hturn) hresult with
      hreplied | ⟨epoch, cached, fresh, hcompares, hconflict⟩
    · exact hreplied
    · rw [hagrees turn hturn epoch cached fresh hcompares] at hconflict
      cases hconflict
  · rintro turn hturn head _ hsees rfl hdue hanswered hupcoming hduties
    obtain ⟨talk, hrefreshes⟩ := exists_refreshes (hrun.tick_of_mem hturn) hsees hdue
    refine hrefreshes.commits (hrefreshes.smooth hanswered ?_ ?_ (hagrees turn hturn _))
    · intro reported assignments hmem
      obtain ⟨hreported, hslots⟩ := hupcoming reported assignments hmem
      exact ⟨hreported, Schedule.strayFault?_eq_none_iff.mpr hslots⟩
    · intro assignments hmem
      exact Schedule.strayFault?_eq_none_iff.mpr (hduties assignments hmem)

/-- The first refresh fails at the last payload and is made up for, the next epoch is compared, and after a gap
there is one more. -/
def faltering : List Replies :=
  [{ repliesAt 64 2 3 with next := .error (.unavailable "execution node") }, repliesAt 64 2 3,
    repliesAt 96 3 4, repliesAt 192 6 7]

/-- What is said in these turns. -/
theorem faltering_talks :
    ∃ p q r s, (standard.enact State.start faltering).map Turn.talk =
      [[⟨.head, .ok 64⟩, ⟨.upcoming, .ok (3, loneProposer 3 3)⟩, ⟨.duties 2, .ok (loneProposer 2 2)⟩,
          ⟨.insert p, .ok true⟩, ⟨.insert q, .error (.unavailable "execution node")⟩],
        [⟨.head, .ok 64⟩, ⟨.upcoming, .ok (3, loneProposer 3 3)⟩, ⟨.duties 2, .ok (loneProposer 2 2)⟩,
          ⟨.insert p, .ok true⟩, ⟨.insert q, .ok true⟩],
        [⟨.head, .ok 96⟩, ⟨.upcoming, .ok (4, loneProposer 4 4)⟩, ⟨.duties 3, .ok (loneProposer 3 3)⟩,
          ⟨.insert r, .ok true⟩],
        [⟨.head, .ok 192⟩, ⟨.upcoming, .ok (7, loneProposer 7 7)⟩, ⟨.duties 6, .ok (loneProposer 6 6)⟩,
          ⟨.insert s, .ok true⟩]] :=
  ⟨_, _, _, _, rfl⟩

theorem faltering_steady :
    Steady (fun epoch => loneProposer epoch epoch) (standard.enact State.start faltering) := by
  obtain ⟨p, q, r, s, htalks⟩ := faltering_talks
  have hsaid : ∀ turn ∈ standard.enact State.start faltering, turn.talk ∈ _ := fun turn hturn =>
    List.mem_map_of_mem (f := Turn.talk) hturn
  rw [htalks] at hsaid
  constructor
  · intro turn hturn epoch assignments hmem
    have htalk := hsaid turn hturn
    simp only [List.mem_cons, List.not_mem_nil, or_false] at htalk
    rcases htalk with h | h | h | h <;> simp [h] at hmem <;> simp [hmem]
  · intro turn hturn epoch assignments hmem
    have htalk := hsaid turn hturn
    simp only [List.mem_cons, List.not_mem_nil, or_false] at htalk
    rcases htalk with h | h | h | h <;> simp [h] at hmem <;> obtain ⟨rfl, heq⟩ := hmem <;> simpa using heq

/-- The turn in which the duties are compared. -/
def compared : Turn := standard.turnFor (standard.stateAfter State.start (faltering.take 2)) (repliesAt 96 3 4)

/-- In this run the duties are compared once, and the refresh is completed. -/
theorem faltering_commits :
    ∃ state, standard.Run State.start (standard.enact State.start faltering) state ∧
      Steady (fun epoch => loneProposer epoch epoch) (standard.enact State.start faltering) ∧
      compared ∈ standard.enact State.start faltering ∧
      (∃ cached fresh, compared.Compares standard 3 cached fresh ∧ cached.checkFresh fresh = .ok ()) ∧
      (∃ acknowledgement, compared.result = .ok (.committed 3 acknowledgement)) ∧
      committedEpochs (standard.enact State.start faltering) = [2, 3, 6] := by
  have hrun : standard.Run State.start (standard.enact State.start faltering) _ := enact_run faltering
  have huncontested : ∀ epoch slot, ¬ Schedule.Contested (loneProposer epoch epoch) slot := by
    rintro epoch slot ⟨validator, rival, hne, hvalidator, hrival⟩
    have hclaims : claimsOf (loneProposer epoch epoch) = [⟨standard.length.firstSlot epoch, epoch⟩] := rfl
    rw [hclaims] at hvalidator hrival
    cases List.mem_singleton.mp hvalidator
    cases List.mem_singleton.mp hrival
    exact hne rfl
  obtain ⟨hagrees, _, hcommits⟩ := steady_run hrun faltering_steady huncontested
  have hmem : compared ∈ standard.enact State.start faltering := .tail _ (.tail _ (.head _))
  have hbefore : compared.before.progress.lastProcessed = some 2 := rfl
  have hdue : compared.before.progress.IsDue 3 :=
    Progress.isDue_of_lt hbefore (by decide)
  have hbuilt : compared.BuildsCurrent standard 3 := ⟨_, _, .tail _ (.tail _ (.head _)), rfl⟩
  have hsees : compared.Sees 96 := rfl
  obtain ⟨talk, hrefreshes⟩ := exists_refreshes (hrun.tick_of_mem hmem) hsees hdue
  obtain ⟨cached, fresh, hcompares⟩ :=
    (hrefreshes.compares_iff (hrun.coherent_of_mem hmem)).mpr ⟨rfl, ⟨2, hbefore, rfl⟩, hbuilt⟩
  obtain ⟨payload, htalk⟩ : ∃ payload, compared.talk = [⟨.head, .ok 96⟩,
      ⟨.upcoming, .ok (4, loneProposer 4 4)⟩, ⟨.duties 3, .ok (loneProposer 3 3)⟩,
      ⟨.insert payload, .ok true⟩] := ⟨_, rfl⟩
  refine ⟨_, hrun, faltering_steady, hmem,
    ⟨cached, fresh, hcompares, hagrees _ hmem _ _ _ hcompares⟩, ?_, rfl⟩
  refine hcommits compared hmem 96 3 hsees rfl hdue ?_ ?_ ?_
  · rw [htalk]
    simp
  · rw [htalk]
    intro reported assignments hupcoming
    obtain ⟨rfl, rfl⟩ : reported = 4 ∧ assignments = loneProposer 4 4 := by simpa using hupcoming
    exact ⟨rfl, by decide⟩
  · rw [htalk]
    intro assignments hduties
    obtain rfl : assignments = loneProposer 3 3 := by simpa using hduties
    decide

end Relay
end DutyRelay
