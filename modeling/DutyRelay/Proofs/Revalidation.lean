import DutyRelay.Proofs.Agreement
import DutyRelay.Proofs.Invisibility
import DutyRelay.Proofs.Precedence
import DutyRelay.Proofs.Transcript

/-!
# When the current epoch is looked at again

Whether the duties of the current epoch are fetched, and whether they are compared, is decided in the code by a
search of the window, the first-run mark and the settings. After a run these come down to epochs: a schedule is
staged exactly if the epoch follows the last one dealt with. So duties are compared only in the epoch right
after the last one and only if the settings say so, and a conflict holds up no tick that sees another epoch.

## Contents
- `Progress.IsNext`: the epoch follows the last one dealt with.
- `Coherent.staged?_of_isNext`, `Coherent.staged?_of_not_isNext`, `Coherent.revalidates_iff`: what is staged.
- `Turn.BuildsNext`, `Turn.BuildsCurrent`: the answers about both epochs can be made into schedules.
- `Refreshes.asks_iff`, `compares_iff`: one turn.
- `run_compares_iff`: a whole run.
- `drifting`: a conflict, and the turn after it.
- `misreported`: a turn in which nothing is compared, although settings and epoch call for it.
-/

namespace DutyRelay

/-- The epoch follows the last one dealt with. -/
def Progress.IsNext (progress : Progress) (epoch : Epoch) : Prop :=
  ∃ last, progress.lastProcessed = some last ∧ epoch = last + 1

namespace Relay

variable {relay : Relay} {state : State} {turns : List Turn} {turn : Turn} {epoch : Epoch}
  {cached : Schedule} {fresh : List Assignment} {talk : List (Exchange Inquiries)}

/-! ## What is staged -/

/-- For the epoch that follows the last one, the next schedule is staged, and the first refresh is over. -/
theorem State.Coherent.staged?_of_isNext (h : state.Coherent relay.length)
    (hnext : state.progress.IsNext epoch) :
    ∃ schedule, state.window.next = some schedule ∧ state.window.staged? epoch = some schedule ∧
      state.progress.firstRun = false := by
  obtain ⟨last, hlast, rfl⟩ := hnext
  rcases h with hfresh | ⟨last', hsynced⟩
  · exact absurd hlast hfresh.not_processed
  · obtain rfl := hsynced.last_eq hlast
    obtain ⟨current, schedule, hwindow, _, hupcoming⟩ := hsynced.window
    have hsome : state.window.next = some schedule := by rw [hwindow]
    exact ⟨schedule, hsome, Window.staged?_of_next hsome hupcoming.epoch_eq, hsynced.firstRun⟩

/-- For any other epoch that is due nothing is staged. -/
theorem State.Coherent.staged?_of_not_isNext (h : state.Coherent relay.length)
    (hdue : state.progress.IsDue epoch) (hnext : ¬ state.progress.IsNext epoch) :
    state.window.staged? epoch = none := by
  rcases h with hfresh | ⟨last, hsynced⟩
  · rw [hfresh.window, Window.staged?_empty]
  · have hlt : last < epoch := hdue.lt hsynced.firstRun hsynced.lastProcessed
    obtain ⟨current, schedule, hwindow, hcurrent, hupcoming⟩ := hsynced.window
    rw [Option.eq_none_iff_forall_ne_some]
    intro staged hstaged
    obtain ⟨hepoch, hmem⟩ := Window.staged?_eq_some hstaged
    rw [hwindow] at hmem
    rcases hmem with hmem | hmem
    · -- The current schedule is that of the last epoch.
      cases hmem
      exact absurd (hcurrent.epoch_eq.symm.trans hepoch) (Nat.ne_of_lt hlt)
    · cases hmem
      exact hnext ⟨last, hsynced.lastProcessed, hepoch.symm.trans hupcoming.epoch_eq⟩

/-- **When the current epoch is fetched**, in terms of epochs. -/
theorem State.Coherent.revalidates_iff (h : state.Coherent relay.length)
    (hdue : state.progress.IsDue epoch) :
    relay.revalidates state.progress.firstRun (state.window.staged? epoch) = true ↔
      relay.revalidation = .always ∨ ¬ state.progress.IsNext epoch := by
  rw [Relay.revalidates_iff]
  by_cases hnext : state.progress.IsNext epoch
  · obtain ⟨schedule, _, hstaged, hfirst⟩ := h.staged?_of_isNext hnext
    simp [hstaged, hfirst, hnext]
  · simp [h.staged?_of_not_isNext hdue hnext, hnext]

/-! ## One turn -/

/-- A schedule of the epoch after this one was built in the turn. -/
def Turn.BuildsNext (relay : Relay) (turn : Turn) (epoch : Epoch) : Prop :=
  ∃ assignments next, ⟨.upcoming, .ok (epoch + 1, assignments)⟩ ∈ turn.talk ∧
    Schedule.build relay.length (epoch + 1) assignments = .ok next

/-- A schedule of the epoch was built in the turn from an answer about its duties. -/
def Turn.BuildsCurrent (relay : Relay) (turn : Turn) (epoch : Epoch) : Prop :=
  ∃ fresh schedule, ⟨.duties epoch, .ok fresh⟩ ∈ turn.talk ∧
    Schedule.build relay.length epoch fresh = .ok schedule

theorem Turn.Refreshes.asks_iff (h : turn.Refreshes relay epoch talk)
    (hcoherent : turn.before.Coherent relay.length) (hbuilds : turn.BuildsNext relay epoch) :
    (∃ reply, ⟨.duties epoch, reply⟩ ∈ turn.talk) ↔
      relay.revalidation = .always ∨ ¬ turn.before.progress.IsNext epoch := by
  obtain ⟨out, hopen, _⟩ := h.openTalk
  obtain ⟨assignments, next, hupcoming, hbuild⟩ := hbuilds
  rw [h.mem_upcoming_iff] at hupcoming
  rw [← hcoherent.revalidates_iff h.due]
  constructor
  · rintro ⟨reply, hmem⟩
    exact hopen.fetches_of_duties (h.mem_duties_iff.mp hmem)
  · intro hfetch
    obtain ⟨reply, hmem⟩ := hopen.exists_duties hupcoming hbuild hfetch
    exact ⟨reply, h.mem_duties_iff.mpr hmem⟩

/-- **When duties are compared in a turn, and with what**: the settings say so, the epoch follows the last one,
and a schedule can be built from the duties; they are compared with the next schedule of the window. -/
theorem compares_iff (hcoherent : turn.before.Coherent relay.length) :
    turn.Compares relay epoch cached fresh ↔
      (∃ talk, turn.Refreshes relay epoch talk) ∧ relay.revalidation = .always ∧
        turn.before.progress.IsNext epoch ∧ turn.before.window.next = some cached ∧
        ⟨.duties epoch, .ok fresh⟩ ∈ turn.talk ∧
        ∃ schedule, Schedule.build relay.length epoch fresh = .ok schedule := by
  constructor
  · rintro ⟨talk, verdict, h, hverdict⟩
    obtain ⟨out, hopen, _⟩ := h.openTalk
    obtain ⟨hstaged, hduties, hbuild⟩ := hopen.compare_iff.mp ⟨verdict, hverdict⟩
    have hnext : turn.before.progress.IsNext epoch := by
      refine Classical.byContradiction fun hnot => ?_
      rw [hcoherent.staged?_of_not_isNext h.due hnot] at hstaged
      cases hstaged
    obtain ⟨schedule, hwindow, hstaged', _⟩ := hcoherent.staged?_of_isNext hnext
    obtain rfl := Option.some.inj (hstaged'.symm.trans hstaged)
    have halways : relay.revalidation = .always :=
      ((hcoherent.revalidates_iff h.due).mp (hopen.fetches_of_duties hduties)).resolve_right
        (not_not_intro hnext)
    exact ⟨⟨talk, h⟩, halways, hnext, hwindow, h.mem_duties_iff.mpr hduties, hbuild⟩
  · rintro ⟨⟨talk, h⟩, _, hnext, hwindow, hduties, hbuild⟩
    obtain ⟨out, hopen, _⟩ := h.openTalk
    obtain ⟨schedule, hsome, hstaged, _⟩ := hcoherent.staged?_of_isNext hnext
    obtain rfl := Option.some.inj (hsome.symm.trans hwindow)
    obtain ⟨verdict, hverdict⟩ :=
      hopen.compare_iff.mpr ⟨hstaged, h.mem_duties_iff.mp hduties, hbuild⟩
    exact ⟨talk, verdict, h, hverdict⟩

/-- The same, whatever the duties are compared with. -/
theorem Turn.Refreshes.compares_iff (h : turn.Refreshes relay epoch talk)
    (hcoherent : turn.before.Coherent relay.length) :
    (∃ cached fresh, turn.Compares relay epoch cached fresh) ↔
      relay.revalidation = .always ∧ turn.before.progress.IsNext epoch ∧
        turn.BuildsCurrent relay epoch := by
  constructor
  · rintro ⟨cached, fresh, hcompares⟩
    obtain ⟨_, halways, hnext, _, hduties, schedule, hbuild⟩ := (Relay.compares_iff hcoherent).mp hcompares
    exact ⟨halways, hnext, fresh, schedule, hduties, hbuild⟩
  · rintro ⟨halways, hnext, fresh, schedule, hduties, hbuild⟩
    obtain ⟨cached, hwindow, _⟩ := hcoherent.staged?_of_isNext hnext
    exact ⟨cached, fresh, (Relay.compares_iff hcoherent).mpr
      ⟨⟨talk, h⟩, halways, hnext, hwindow, hduties, schedule, hbuild⟩⟩

/-- A turn that finds a conflict fails with it. -/
theorem Turn.Compares.result_eq {failure : Failure} (h : turn.Compares relay epoch cached fresh)
    (hconflict : cached.checkFresh fresh = .error failure) : turn.result = .error failure := by
  obtain ⟨talk, verdict, hrefreshes, hverdict⟩ := h
  obtain ⟨out, hopen, hresult⟩ := hrefreshes.openTalk
  obtain rfl := (hrefreshes.settled _ _ _ hverdict).trans hconflict
  rw [hresult, hopen.error_of_verdict hverdict]
  rfl

/-- Two turns that compare with the same epoch on record are for the same epoch. -/
theorem Turn.Compares.epoch_eq {later : Turn} {epoch' : Epoch} {cached' : Schedule}
    {fresh' : List Assignment} (h : turn.Compares relay epoch cached fresh)
    (hlater : later.Compares relay epoch' cached' fresh')
    (hcoherent : turn.before.Coherent relay.length) (hcoherent' : later.before.Coherent relay.length)
    (hsame : turn.before.SameButHead later.before) : epoch' = epoch := by
  obtain ⟨_, _, ⟨last, hlast, rfl⟩, _⟩ := (Relay.compares_iff hcoherent).mp h
  obtain ⟨_, _, ⟨last', hlast', rfl⟩, _⟩ := (Relay.compares_iff hcoherent').mp hlater
  rw [hsame.lastProcessed, hlast] at hlast'
  rw [Option.some.inj hlast']

/-! ## A whole run -/

/-- After a conflict no turn compares anything in another epoch until a refresh is completed. -/
theorem Run.epoch_of_compares {earlier between rest : List Turn} {later : Turn} {epoch' : Epoch}
    {cached' : Schedule} {fresh' : List Assignment}
    (hrun : relay.Run State.start (earlier ++ turn :: (between ++ later :: rest)) state)
    (hquiet : ∀ t ∈ turn :: between, t.commits = false)
    (hcompares : turn.Compares relay epoch cached fresh)
    (hlater : later.Compares relay epoch' cached' fresh') : epoch' = epoch := by
  -- Without a completed refresh the later turn finds the same epoch as the last one dealt with.
  obtain ⟨middle, hbefore, hafter⟩ := hrun.split
  obtain rfl := hafter.before_eq
  rw [← List.cons_append] at hafter
  have hbetween : relay.Run turn.before (turn :: between) later.before := hafter.reaches
  have hreached := hbefore.append hbetween
  exact hcompares.epoch_eq hlater hbefore.coherent hreached.coherent (hbetween.sameButHead hquiet)

/-- **When duties are fetched again and when they are compared, over a whole run.** Whatever the nodes reply,
- in a turn where a refresh is due and the schedule of the next epoch is built, the duties of the current
  epoch are asked for exactly if the settings always say so or the epoch does not follow the last one dealt
  with;
- in such a turn they are compared exactly if the settings always say so, the epoch follows the last one, and
  a schedule of it is built from the answer;
- at the first refresh nothing is ever compared, and nothing at any time if the settings ask for the first
  refresh only;
- and a turn that finds a conflict fails with it, but up to the next completed refresh no turn compares
  anything in another epoch. -/
theorem run_compares_iff (hrun : relay.Run State.start turns state) :
    (∀ turn ∈ turns, ∀ head epoch, turn.Sees head → relay.length.epochOf head = epoch →
      turn.before.progress.IsDue epoch → turn.BuildsNext relay epoch →
        ((∃ reply, ⟨.duties epoch, reply⟩ ∈ turn.talk) ↔
          relay.revalidation = .always ∨ ¬ turn.before.progress.IsNext epoch) ∧
        ((∃ cached fresh, turn.Compares relay epoch cached fresh) ↔
          relay.revalidation = .always ∧ turn.before.progress.IsNext epoch ∧
            turn.BuildsCurrent relay epoch)) ∧
    (relay.revalidation = .firstRunOnly →
      ∀ turn ∈ turns, ∀ epoch cached fresh, ¬ turn.Compares relay epoch cached fresh) ∧
    (∀ turn ∈ turns, turn.before.progress.firstRun = true →
      ∀ epoch cached fresh, ¬ turn.Compares relay epoch cached fresh) ∧
    (∀ earlier turn between later rest, turns = earlier ++ turn :: (between ++ later :: rest) →
      (∀ t ∈ between, t.commits = false) →
      ∀ epoch cached fresh failure, turn.Compares relay epoch cached fresh →
        cached.checkFresh fresh = .error failure →
          turn.result = .error failure ∧
          ∀ epoch' cached' fresh', later.Compares relay epoch' cached' fresh' → epoch' = epoch) := by
  refine ⟨?_, ?_, ?_, ?_⟩
  · rintro turn hturn head _ hsees rfl hdue hbuilds
    have hcoherent := hrun.coherent_of_mem hturn
    obtain ⟨talk, htalk⟩ := exists_refreshes (hrun.tick_of_mem hturn) hsees hdue
    exact ⟨htalk.asks_iff hcoherent hbuilds, htalk.compares_iff hcoherent⟩
  · intro honly turn hturn epoch cached fresh hcompares
    obtain ⟨_, halways, _⟩ := (compares_iff (hrun.coherent_of_mem hturn)).mp hcompares
    cases honly.symm.trans halways
  · intro turn hturn hfirst epoch cached fresh hcompares
    have hcoherent := hrun.coherent_of_mem hturn
    obtain ⟨_, _, hnext, _⟩ := (compares_iff hcoherent).mp hcompares
    obtain ⟨_, _, _, hlater⟩ := hcoherent.staged?_of_isNext hnext
    cases hfirst.symm.trans hlater
  · rintro earlier turn between later rest rfl hquiet epoch cached fresh failure hcompares hconflict
    have hresult := hcompares.result_eq hconflict
    refine ⟨hresult, fun epoch' cached' fresh' hlater => ?_⟩
    refine hrun.epoch_of_compares (fun t ht => ?_) hcompares hlater
    rcases List.mem_cons.mp ht with rfl | ht
    · simp [Turn.commits, commits, hresult]
    · exact hquiet t ht

/-- A refresh for the third epoch, another proposer for the fourth than the one that was announced, and then
the head in the fifth. -/
def drifting : List Replies := [repliesAt 64 1 2, repliesAt 96 9 3, repliesAt 128 3 4]

/-- The turn in which the other proposer is found. -/
def conflicting : Turn := standard.turnFor (standard.stateAfter State.start (drifting.take 1)) (repliesAt 96 9 3)

/-- The turn after it. -/
def recovering : Turn := standard.turnFor (standard.stateAfter State.start (drifting.take 2)) (repliesAt 128 3 4)

/-- The conflict holds up the turn that finds it, and not the next one. -/
theorem drifting_not_held_up :
    ∃ first state, standard.Run State.start (standard.enact State.start drifting) state ∧
      standard.enact State.start drifting = [first, conflicting, recovering] ∧
      (∃ cached fresh, conflicting.Compares standard 3 cached fresh) ∧
      conflicting.result = .error (.conflict 3 1) ∧
      (∀ cached fresh, ¬ recovering.Compares standard 4 cached fresh) ∧
      recovering.result = .ok (.committed 4 .accepted) := by
  have hrun : standard.Run State.start (standard.enact State.start drifting) _ := enact_run drifting
  obtain ⟨hasks, _, _, hheld⟩ := run_compares_iff hrun
  have hmem : conflicting ∈ standard.enact State.start drifting := .tail _ (.head _)
  have hbefore : conflicting.before.progress.lastProcessed = some 2 := rfl
  have hdue : conflicting.before.progress.IsDue 3 :=
    Progress.isDue_of_lt hbefore (by decide)
  have htalk : conflicting.talk = [⟨.head, .ok 96⟩, ⟨.upcoming, .ok (4, loneProposer 4 3)⟩,
      ⟨.duties 3, .ok (loneProposer 3 9)⟩] := rfl
  have hbuilds : conflicting.BuildsNext standard 3 := ⟨_, _, .tail _ (.head _), rfl⟩
  have hbuilt : conflicting.BuildsCurrent standard 3 := ⟨_, _, .tail _ (.tail _ (.head _)), rfl⟩
  obtain ⟨_, hcompares⟩ := hasks conflicting hmem 96 3 rfl rfl hdue hbuilds
  obtain ⟨cached, fresh, hcompared⟩ := hcompares.mpr ⟨rfl, ⟨2, hbefore, rfl⟩, hbuilt⟩
  -- What is compared is the answer of this turn with the schedule announced in the first.
  have hconflict : cached.checkFresh fresh = .error (.conflict 3 1) := by
    obtain ⟨_, _, _, hcached, hfresh, _⟩ := (compares_iff (hrun.coherent_of_mem hmem)).mp hcompared
    rw [htalk] at hfresh
    obtain rfl : fresh = loneProposer 3 9 := by simpa using hfresh
    cases hcached
    rfl
  have hturns : standard.enact State.start drifting =
      [standard.turnFor State.start (repliesAt 64 1 2)] ++ conflicting :: ([] ++ recovering :: []) := rfl
  obtain ⟨hresult, hothers⟩ := hheld _ _ _ _ _ hturns (by simp) _ _ _ _ hcompared hconflict
  refine ⟨_, _, hrun, rfl, ⟨cached, fresh, hcompared⟩, hresult, fun cached' fresh' hlater => ?_, rfl⟩
  exact absurd (hothers 4 cached' fresh' hlater) (by decide)

/-- The duties of the fourth epoch name another proposer than the one that was announced, and a slot of a later
epoch besides. -/
def strayed : Replies :=
  ⟨.ok 12, .ok (4, [⟨8, ⟨[0xff]⟩, [16]⟩]), .ok [⟨6, ⟨[0xdd]⟩, [12]⟩, ⟨7, ⟨[0xee]⟩, [99]⟩],
    .ok true, .ok true⟩

/-- A turn with these duties, after a refresh for the third epoch. -/
def misreported : Turn :=
  shortRelay.turnFor (shortRelay.turnFor State.start (duties 1 ⟨[0xaa]⟩ (.ok true))).after strayed

/-- **Settings and epochs do not decide alone.** Here the settings always say so, the epoch follows the last one
and the schedule of the next one is built, but no comparison takes place: the stray slot is found first. -/
theorem misreported_not_compared :
    (∃ first state, shortRelay.Run State.start [first, misreported] state) ∧
      misreported.Sees 12 ∧ shortRelay.length.epochOf 12 = 3 ∧ misreported.before.progress.IsDue 3 ∧
      misreported.BuildsNext shortRelay 3 ∧ misreported.result = .error (.slotOutsideEpoch 99 3) ∧
      ¬ ((∃ cached fresh, misreported.Compares shortRelay 3 cached fresh) ↔
        shortRelay.revalidation = .always ∧ misreported.before.progress.IsNext 3) := by
  have hrun : shortRelay.Run State.start
      (shortRelay.enact State.start [duties 1 ⟨[0xaa]⟩ (.ok true), strayed]) _ := enact_run _
  have hbefore : misreported.before.progress.lastProcessed = some 2 := rfl
  have hdue : misreported.before.progress.IsDue 3 :=
    Progress.isDue_of_lt hbefore (by decide)
  have htalk : misreported.talk = [⟨.head, .ok 12⟩, ⟨.upcoming, strayed.upcoming⟩,
      ⟨.duties 3, strayed.duties⟩] := rfl
  have hbuilds : misreported.BuildsNext shortRelay 3 := ⟨_, _, .tail _ (.head _), rfl⟩
  refine ⟨⟨_, _, hrun⟩, rfl, rfl, hdue, hbuilds, rfl, fun hiff => ?_⟩
  obtain ⟨cached, fresh, hcompares⟩ := hiff.mpr ⟨rfl, 2, hbefore, rfl⟩
  have hmem : misreported ∈ shortRelay.enact State.start [duties 1 ⟨[0xaa]⟩ (.ok true), strayed] :=
    .tail _ (.head _)
  obtain ⟨_, _, _, _, hduties, schedule, hbuild⟩ :=
    (compares_iff (hrun.coherent_of_mem hmem)).mp hcompares
  rw [htalk] at hduties
  obtain rfl : fresh = [⟨6, ⟨[0xdd]⟩, [12]⟩, ⟨7, ⟨[0xee]⟩, [99]⟩] := by simpa [strayed] using hduties
  cases hbuild

end Relay
end DutyRelay
