import DutyRelay.Proofs.Coherence
import DutyRelay.Proofs.Inquiry

/-!
# What is said in a refresh, and in which order

The next epoch is asked for first. If a schedule can be built from the answer, the current epoch is asked for
where it has to be; if a schedule can be built from this answer too, and one is known already, the answer is
compared with it. What is said after that is payloads handed over. This file states the order once, with the
comparisons in it, and derives from it which questions are put and what the refresh comes to.

## Contents
- `Relay.HandsOver`, `handsOver_moving`: the part of a refresh after everything is fetched.
- `Relay.CurrentTalk`, `Relay.OpenTalk`, `openTalk_of_leads`: the order.
- `OpenTalk.exists_duties`, `OpenTalk.fetches_of_duties`: when the current epoch is asked for.
- `OpenTalk.compare_iff`: when its duties are compared.
- `OpenTalk.error_of_verdict`, `OpenTalk.exists_conflict`, `OpenTalk.exists_ok`: what the refresh comes to.
- `Turn.Sees`, `Turn.Refreshes`, `Turn.Compares`: the same for a turn; `exists_refreshes`.
-/

namespace DutyRelay

namespace Relay

open Dialogue

variable {relay : Relay} {window : Window} {epoch : Epoch} {firstRun : Bool} {known : Option Schedule}
  {talk : List (Exchange Inquiries)}

/-! ## Handing over -/

section HandingOver

variable {α β : Type} {x : Attempt α} {f : α → Attempt β} {said : List (Exchange Nodes)}

/-- All that was said is payloads handed over, and a failure is one that was replied to one of them. -/
structure HandedOver (said : List (Exchange Nodes)) (out : Outcome α) : Prop where
  payloads : ∀ exchange ∈ said, ∃ payload reply, exchange = ⟨.insert payload, reply⟩
  failure : ∀ failure, out = .error failure → ∃ payload, ⟨.insert payload, .error failure⟩ ∈ said

/-- The attempt does nothing else, whatever is replied. -/
def HandsOver (x : Attempt α) : Prop := ∀ said out, x.run.Leads said out → HandedOver said out

theorem handsOver_pure (value : α) : HandsOver (pure value : Attempt α) := by
  intro said out h
  obtain ⟨rfl, rfl⟩ := leads_done_iff.mp h
  exact ⟨nofun, nofun⟩

theorem HandsOver.bind (hx : HandsOver x) (hf : ∀ a, HandsOver (f a)) : HandsOver (x >>= f) := by
  intro said out h
  rcases leads_attempt_bind_iff.mp h with ⟨failure, hfail, rfl⟩ | ⟨earlier, later, a, rfl, hok, hlater⟩
  · have hsaid := hx _ _ hfail
    exact ⟨hsaid.payloads, fun _ heq => hsaid.failure _ (congrArg _ (Except.error.inj heq))⟩
  · have hearlier := hx _ _ hok
    have hrest := hf a _ _ hlater
    refine ⟨fun exchange hmem => ?_, fun failure heq => ?_⟩
    · rcases List.mem_append.mp hmem with hmem | hmem
      · exact hearlier.payloads exchange hmem
      · exact hrest.payloads exchange hmem
    · obtain ⟨payload, hmem⟩ := hrest.failure failure heq
      exact ⟨payload, List.mem_append_right _ hmem⟩

theorem handsOver_publish (schedule : Schedule) : HandsOver (relay.publish schedule) := by
  intro said out h
  obtain ⟨reply, rfl, rfl⟩ := (asksOnce_publish schedule said out).mp h
  refine ⟨fun exchange hmem => ?_, fun failure heq => ?_⟩
  · exact ⟨_, reply, List.mem_singleton.mp hmem⟩
  · cases reply with
    | ok answer => cases heq
    | error failure' => cases heq; exact ⟨_, List.mem_cons_self⟩

theorem handsOver_publishWindow (current next : Schedule) :
    HandsOver (relay.publishWindow firstRun ⟨some current, some next⟩ next) := by
  have hnext : ∀ earlier : Acknowledgement,
      HandsOver (relay.publish next >>= fun later => pure (earlier.both later)) :=
    fun earlier => (handsOver_publish next).bind fun later => handsOver_pure _
  cases firstRun with
  | true => exact (handsOver_publish current).bind hnext
  | false => exact (handsOver_pure .accepted).bind hnext

/-- Once the schedules are fetched, all that is left to do is to hand them over: the window moves on. -/
theorem handsOver_moving {next current : Schedule} {fresh : Option Schedule}
    (hnext : next.epoch = epoch + 1) (hcurrent : (window.staged? epoch).or fresh = some current)
    (hepoch : current.epoch = epoch) : HandsOver (relay.moving window firstRun next fresh) := by
  intro said out h
  have hrest := leads_note_attempt_iff.mp h
  rw [Window.promote_eq_ok hnext hcurrent hepoch] at hrest
  have hpublish : HandsOver (relay.publishWindow firstRun ⟨some current, some next⟩ next >>=
      fun acknowledgement => pure ((⟨some current, some next⟩ : Window), acknowledgement)) :=
    (handsOver_publishWindow current next).bind fun acknowledgement => handsOver_pure _
  exact hpublish said out hrest

/-- Any other inquiry is no part of it. -/
theorem HandedOver.not_mem {out : Outcome α} {inquiry : Inquiry} {reply : Inquiry.Answer inquiry}
    (h : HandedOver said out) (hinquiry : ∀ payload, inquiry ≠ .node (.insert payload)) :
    ⟨inquiry, reply⟩ ∉ said.map Exchange.inquiry := by
  intro hmem
  obtain ⟨exchange, hexchange, heq⟩ := List.mem_map.mp hmem
  obtain ⟨payload, _, rfl⟩ := h.payloads exchange hexchange
  cases heq
  exact hinquiry payload rfl

end HandingOver

/-! ## The order in which things are said -/

/-- What is said about the current epoch once it is asked for, and what this comes to. -/
inductive CurrentTalk (relay : Relay) (epoch : Epoch) (known : Option Schedule) :
    List (Exchange Inquiries) → Outcome Schedule → Prop
  /-- There is no answer, or no schedule can be built from it. -/
  | unbuilt {reply failure} (h : reply.bind (Schedule.build relay.length epoch) = .error failure) :
      CurrentTalk relay epoch known [⟨.node (.duties epoch), reply⟩] (.error failure)
  /-- There is nothing to compare the answer with. -/
  | alone {fresh schedule} (hknown : known = none)
      (hbuild : Schedule.build relay.length epoch fresh = .ok schedule) :
      CurrentTalk relay epoch known [⟨.node (.duties epoch), .ok fresh⟩] (.ok schedule)
  | compared {fresh schedule cached verdict} (hknown : known = some cached)
      (hbuild : Schedule.build relay.length epoch fresh = .ok schedule) :
      CurrentTalk relay epoch known
        [⟨.node (.duties epoch), .ok fresh⟩, ⟨.compare cached fresh, verdict⟩]
        (verdict.map fun _ => schedule)

/-- What is said in a refresh, and what it comes to. -/
inductive OpenTalk (relay : Relay) (window : Window) (epoch : Epoch) (firstRun : Bool) :
    List (Exchange Inquiries) → Outcome (Window × Acknowledgement) → Prop
  /-- There is no answer about the next epoch, or no schedule can be built from it. -/
  | refused {reply failure} (h : relay.nextFrom epoch reply = .error failure) :
      OpenTalk relay window epoch firstRun [⟨.node .upcoming, reply⟩] (.error failure)
  /-- The current epoch is not asked for. -/
  | unasked {reply next said out} (hnext : relay.nextFrom epoch reply = .ok next)
      (hfetch : ¬ relay.revalidates firstRun (window.staged? epoch) = true)
      (hsaid : HandedOver said out) :
      OpenTalk relay window epoch firstRun
        (⟨.node .upcoming, reply⟩ :: said.map Exchange.inquiry) out
  /-- It is asked for, and there is something wrong about the answer. -/
  | aborted {reply next talk failure} (hnext : relay.nextFrom epoch reply = .ok next)
      (hfetch : relay.revalidates firstRun (window.staged? epoch) = true)
      (hcurrent : CurrentTalk relay epoch (window.staged? epoch) talk (.error failure)) :
      OpenTalk relay window epoch firstRun (⟨.node .upcoming, reply⟩ :: talk) (.error failure)
  | asked {reply next talk fresh said out} (hnext : relay.nextFrom epoch reply = .ok next)
      (hfetch : relay.revalidates firstRun (window.staged? epoch) = true)
      (hcurrent : CurrentTalk relay epoch (window.staged? epoch) talk (.ok fresh))
      (hsaid : HandedOver said out) :
      OpenTalk relay window epoch firstRun
        (⟨.node .upcoming, reply⟩ :: (talk ++ said.map Exchange.inquiry)) out

theorem currentTalk_of_leads {out : Outcome Schedule}
    (h : (relay.openCurrent epoch known).run.Leads talk out) :
    relay.CurrentTalk epoch known talk out := by
  rcases leads_attempt_bind_iff.mp h with ⟨failure, hfail, rfl⟩ | ⟨_, _, fresh, rfl, hok, hbuilding⟩
  · obtain ⟨reply, rfl, rfl⟩ :=
      (Inquiry.leads_pass_asksOnce_iff (asksOnce_direct (.duties epoch))).mp hfail
    exact .unbuilt rfl
  · obtain ⟨_, rfl, rfl⟩ :=
      (Inquiry.leads_pass_asksOnce_iff (asksOnce_direct (.duties epoch))).mp hok
    rcases leads_attempt_bind_iff.mp hbuilding with
      ⟨failure, hfail, rfl⟩ | ⟨_, _, schedule, rfl, hok, hcomparing⟩
    · obtain ⟨rfl, hbuild⟩ := (Inquiry.leads_pass_silent_iff (silent_buildSchedule fresh)).mp hfail
      exact .unbuilt hbuild.symm
    · obtain ⟨rfl, hbuild⟩ := (Inquiry.leads_pass_silent_iff (silent_buildSchedule fresh)).mp hok
      cases known with
      | none =>
        obtain ⟨rfl, rfl⟩ := leads_done_iff.mp hcomparing
        exact .alone rfl hbuild.symm
      | some cached =>
        obtain ⟨verdict, hverdict, rfl⟩ := leads_attempt_map_iff.mp hcomparing
        obtain rfl := Inquiry.comparing_leads_iff.mp hverdict
        exact .compared rfl hbuild.symm

/-- A schedule that the current epoch comes to is of this epoch. -/
theorem CurrentTalk.epoch_eq {fresh : Schedule} (h : relay.CurrentTalk epoch known talk (.ok fresh)) :
    fresh.epoch = epoch := by
  generalize hout : Except.ok fresh = out at h
  cases h with
  | unbuilt => cases hout
  | alone _ hbuild => cases hout; exact Schedule.epoch_of_build hbuild
  | @compared _ schedule _ verdict _ hbuild =>
    cases verdict with
    | error failure => cases hout
    | ok _ => cases hout; exact Schedule.epoch_of_build hbuild

theorem handsOver_of_staged {next staged : Schedule} {fresh : Option Schedule}
    (hnext : next.epoch = epoch + 1) (hstaged : window.staged? epoch = some staged) :
    HandsOver (relay.moving window firstRun next fresh) := by
  refine handsOver_moving hnext ?_ (Window.staged?_eq_some hstaged).1
  rw [hstaged, Option.some_or]

/-- **The order in which things are said in a refresh.** -/
theorem openTalk_of_leads {out : Outcome (Window × Acknowledgement)}
    (h : (relay.openRefresh window epoch firstRun).run.Leads talk out) :
    relay.OpenTalk window epoch firstRun talk out := by
  rcases leads_attempt_bind_iff.mp h with ⟨failure, hfail, rfl⟩ | ⟨_, _, next, rfl, hok, hlater⟩
  · obtain ⟨reply, rfl, hreply⟩ := (Inquiry.leads_pass_asksOnce_iff asksOnce_fetchNext).mp hfail
    exact .refused hreply.symm
  · obtain ⟨reply, rfl, hreply⟩ := (Inquiry.leads_pass_asksOnce_iff asksOnce_fetchNext).mp hok
    have hepoch : next.epoch = epoch + 1 := (nextFrom_eq_ok hreply.symm).2
    by_cases hfetch : relay.revalidates firstRun (window.staged? epoch) = true
    · rw [if_pos hfetch] at hlater
      rcases leads_attempt_bind_iff.mp hlater with
        ⟨failure, hfail, rfl⟩ | ⟨talk, _, fresh, rfl, hok, hmoving⟩
      · obtain ⟨outcome, hcurrent, heq⟩ := leads_attempt_map_iff.mp hfail
        cases outcome with
        | ok schedule => cases heq
        | error failure' =>
          cases heq
          exact .aborted hreply.symm hfetch (currentTalk_of_leads hcurrent)
      · obtain ⟨outcome, hcurrent, heq⟩ := leads_attempt_map_iff.mp hok
        obtain ⟨said, hsaid, rfl⟩ := Inquiry.leads_pass_iff.mp hmoving
        cases outcome with
        | error failure => cases heq
        | ok schedule =>
          cases heq
          have htalk := currentTalk_of_leads hcurrent
          cases hstaged : window.staged? epoch with
          | some staged =>
            exact .asked hreply.symm hfetch htalk (handsOver_of_staged hepoch hstaged _ _ hsaid)
          | none =>
            have hfresh : (window.staged? epoch).or (some schedule) = some schedule := by
              rw [hstaged, Option.none_or]
            exact .asked hreply.symm hfetch htalk
              (handsOver_moving hepoch hfresh htalk.epoch_eq _ _ hsaid)
    · rw [if_neg hfetch] at hlater
      obtain ⟨said, hsaid, rfl⟩ := Inquiry.leads_pass_iff.mp hlater
      cases hstaged : window.staged? epoch with
      | some staged =>
        exact .unasked hreply.symm hfetch (handsOver_of_staged hepoch hstaged _ _ hsaid)
      | none =>
        -- Without a staged schedule the current epoch would be fetched.
        rw [hstaged] at hfetch
        simp [revalidates] at hfetch

/-! ## Which questions are put -/

theorem nextFrom_of_build {assignments : List Assignment} {next : Schedule}
    (h : Schedule.build relay.length (epoch + 1) assignments = .ok next) :
    relay.nextFrom epoch (.ok (epoch + 1, assignments)) = .ok next := by
  show (if epoch + 1 = epoch + 1 then _ else _) = _
  rw [if_pos rfl, h]

theorem CurrentTalk.exists_duties {out : Outcome Schedule} (h : relay.CurrentTalk epoch known talk out) :
    ∃ reply, ⟨.node (.duties epoch), reply⟩ ∈ talk := by
  cases h with
  | unbuilt _ => exact ⟨_, List.mem_cons_self⟩
  | alone _ _ => exact ⟨_, List.mem_cons_self⟩
  | compared _ _ => exact ⟨_, List.mem_cons_self⟩

/-- Once the schedule of the next epoch is built, the duties of the current one are asked for where they are to
be fetched. -/
theorem OpenTalk.exists_duties {out : Outcome (Window × Acknowledgement)}
    {assignments : List Assignment} {next : Schedule}
    (h : relay.OpenTalk window epoch firstRun talk out)
    (hupcoming : ⟨.node .upcoming, .ok (epoch + 1, assignments)⟩ ∈ talk)
    (hbuild : Schedule.build relay.length (epoch + 1) assignments = .ok next)
    (hfetch : relay.revalidates firstRun (window.staged? epoch) = true) :
    ∃ reply, ⟨.node (.duties epoch), reply⟩ ∈ talk := by
  cases h with
  | refused hrefused =>
    cases List.mem_singleton.mp hupcoming
    rw [nextFrom_of_build hbuild] at hrefused
    cases hrefused
  | unasked _ hskip _ => exact absurd hfetch hskip
  | aborted _ _ hcurrent =>
    obtain ⟨reply, hmem⟩ := hcurrent.exists_duties
    exact ⟨reply, List.mem_cons_of_mem _ hmem⟩
  | asked _ _ hcurrent _ =>
    obtain ⟨reply, hmem⟩ := hcurrent.exists_duties
    exact ⟨reply, List.mem_cons_of_mem _ (List.mem_append_left _ hmem)⟩

/-- They are asked for nowhere else. -/
theorem OpenTalk.fetches_of_duties {out : Outcome (Window × Acknowledgement)}
    {reply : Outcome (List Assignment)} (h : relay.OpenTalk window epoch firstRun talk out)
    (hduties : ⟨.node (.duties epoch), reply⟩ ∈ talk) :
    relay.revalidates firstRun (window.staged? epoch) = true := by
  cases h with
  | refused _ => cases List.mem_singleton.mp hduties
  | unasked _ _ hsaid => simp [hsaid.not_mem] at hduties
  | aborted _ hfetch _ => exact hfetch
  | asked _ hfetch _ _ => exact hfetch

theorem CurrentTalk.compare_iff {out : Outcome Schedule} {cached : Schedule} {fresh : List Assignment}
    (h : relay.CurrentTalk epoch known talk out) :
    (∃ verdict, ⟨.compare cached fresh, verdict⟩ ∈ talk) ↔
      known = some cached ∧ ⟨.node (.duties epoch), .ok fresh⟩ ∈ talk ∧
        ∃ schedule, Schedule.build relay.length epoch fresh = .ok schedule := by
  cases h with
  | unbuilt hfailed =>
    constructor
    · rintro ⟨verdict, hmem⟩
      cases List.mem_singleton.mp hmem
    · rintro ⟨_, hmem, schedule, hbuild⟩
      cases List.mem_singleton.mp hmem
      cases hbuild.symm.trans hfailed
  | alone hknown hbuild =>
    constructor
    · rintro ⟨verdict, hmem⟩
      cases List.mem_singleton.mp hmem
    · rintro ⟨hsome, _⟩
      cases hknown.symm.trans hsome
  | @compared answer schedule other verdict hknown hbuild =>
    constructor
    · rintro ⟨verdict', hmem⟩
      have heq : (⟨.compare cached fresh, verdict'⟩ : Exchange Inquiries) =
          ⟨.compare other answer, verdict⟩ := by simpa using hmem
      cases heq
      exact ⟨hknown, List.mem_cons_self, schedule, hbuild⟩
    · rintro ⟨hsome, hmem, _⟩
      have heq : (⟨.node (.duties epoch), .ok fresh⟩ : Exchange Inquiries) =
          ⟨.node (.duties epoch), .ok answer⟩ := by simpa using hmem
      cases heq
      cases hknown.symm.trans hsome
      exact ⟨verdict, List.mem_cons_of_mem _ List.mem_cons_self⟩

/-- **When a comparison takes place**: if a schedule is known for the epoch, the duties of the epoch are
answered, and a schedule can be built from the answer. -/
theorem OpenTalk.compare_iff {out : Outcome (Window × Acknowledgement)} {cached : Schedule}
    {fresh : List Assignment} (h : relay.OpenTalk window epoch firstRun talk out) :
    (∃ verdict, ⟨.compare cached fresh, verdict⟩ ∈ talk) ↔
      window.staged? epoch = some cached ∧ ⟨.node (.duties epoch), .ok fresh⟩ ∈ talk ∧
        ∃ schedule, Schedule.build relay.length epoch fresh = .ok schedule := by
  cases h with
  | refused _ => simp
  | unasked _ _ hsaid => simp [hsaid.not_mem]
  | aborted _ _ hcurrent => simpa using hcurrent.compare_iff
  | asked _ _ hcurrent hsaid => simpa [hsaid.not_mem] using hcurrent.compare_iff

/-! ## What the refresh comes to -/

theorem CurrentTalk.error_of_verdict {out : Outcome Schedule} {cached : Schedule}
    {fresh : List Assignment} {failure : Failure} (h : relay.CurrentTalk epoch known talk out)
    (hverdict : ⟨.compare cached fresh, .error failure⟩ ∈ talk) : out = .error failure := by
  cases h with
  | unbuilt _ => cases List.mem_singleton.mp hverdict
  | alone _ _ => cases List.mem_singleton.mp hverdict
  | @compared answer _ other verdict _ _ =>
    have heq : (⟨.compare cached fresh, .error failure⟩ : Exchange Inquiries) =
        ⟨.compare other answer, verdict⟩ := by simpa using hverdict
    cases heq
    rfl

/-- A comparison that finds a conflict ends the refresh. -/
theorem OpenTalk.error_of_verdict {out : Outcome (Window × Acknowledgement)} {cached : Schedule}
    {fresh : List Assignment} {failure : Failure} (h : relay.OpenTalk window epoch firstRun talk out)
    (hverdict : ⟨.compare cached fresh, .error failure⟩ ∈ talk) : out = .error failure := by
  cases h with
  | refused _ => cases List.mem_singleton.mp hverdict
  | unasked _ _ hsaid => simp [hsaid.not_mem] at hverdict
  | aborted _ _ hcurrent =>
    cases hcurrent.error_of_verdict (by simpa using hverdict)
    rfl
  | asked _ _ hcurrent hsaid =>
    cases hcurrent.error_of_verdict (by simpa [hsaid.not_mem] using hverdict)

/-- Building a schedule never fails for a conflict. -/
theorem build_ne_conflict {assignments : List Assignment} {found : Epoch} {count : Nat} :
    Schedule.build relay.length epoch assignments ≠ .error (.conflict found count) := by
  intro hfailed
  have hstray : Schedule.strayFault? relay.length epoch assignments = some (.conflict found count) := by
    rw [← Schedule.fault_build, hfailed]
    rfl
  obtain ⟨claim, _, heq⟩ := Option.map_eq_some_iff.mp hstray
  cases heq

theorem nextFrom_ne_conflict {answer : Epoch × List Assignment} {found : Epoch} {count : Nat} :
    relay.nextFrom epoch (.ok answer) ≠ .error (.conflict found count) := by
  intro hfailed
  change (if answer.1 = epoch + 1 then _ else _) = _ at hfailed
  by_cases hnext : answer.1 = epoch + 1
  · rw [if_pos hnext] at hfailed
    exact build_ne_conflict hfailed
  · rw [if_neg hnext] at hfailed
    cases hfailed

theorem CurrentTalk.exists_conflict {found : Epoch} {count : Nat}
    (h : relay.CurrentTalk epoch known talk (.error (.conflict found count))) :
    ⟨.node (.duties epoch), .error (.conflict found count)⟩ ∈ talk ∨
      ∃ cached fresh, ⟨.compare cached fresh, .error (.conflict found count)⟩ ∈ talk := by
  generalize hout : Except.error (Failure.conflict found count) = out at h
  cases h with
  | @unbuilt reply failure hfailed =>
    cases hout
    cases reply with
    | error failure => cases hfailed; exact Or.inl List.mem_cons_self
    | ok assignments => exact absurd hfailed build_ne_conflict
  | alone _ _ => cases hout
  | @compared fresh _ cached verdict _ _ =>
    cases verdict with
    | ok _ => cases hout
    | error failure =>
      cases hout
      exact Or.inr ⟨cached, fresh, List.mem_cons_of_mem _ List.mem_cons_self⟩

/-- A refresh fails for a conflict only if a comparison has found it, or a node has replied it. -/
theorem OpenTalk.exists_conflict {found : Epoch} {count : Nat}
    (h : relay.OpenTalk window epoch firstRun talk (.error (.conflict found count))) :
    (∃ query, ⟨.node query, .error (.conflict found count)⟩ ∈ talk) ∨
      ∃ cached fresh, ⟨.compare cached fresh, .error (.conflict found count)⟩ ∈ talk := by
  cases h with
  | @refused reply _ hrefused =>
    cases reply with
    | error failure => cases hrefused; exact Or.inl ⟨_, List.mem_cons_self⟩
    | ok answer => exact absurd hrefused nextFrom_ne_conflict
  | unasked _ _ hsaid =>
    obtain ⟨payload, hmem⟩ := hsaid.failure _ rfl
    exact Or.inl ⟨_, List.mem_cons_of_mem _ (List.mem_map_of_mem (f := Exchange.inquiry) hmem)⟩
  | aborted _ _ hcurrent =>
    rcases hcurrent.exists_conflict with hmem | ⟨cached, fresh, hmem⟩
    · exact Or.inl ⟨_, List.mem_cons_of_mem _ hmem⟩
    · exact Or.inr ⟨cached, fresh, List.mem_cons_of_mem _ hmem⟩
  | asked _ _ _ hsaid =>
    obtain ⟨payload, hmem⟩ := hsaid.failure _ rfl
    exact Or.inl ⟨_, List.mem_cons_of_mem _
      (List.mem_append_right _ (List.mem_map_of_mem (f := Exchange.inquiry) hmem))⟩

/-- Every question is answered, the answers about both epochs can be made into schedules, and no comparison
finds a conflict. -/
structure Smooth (relay : Relay) (epoch : Epoch) (talk : List (Exchange Inquiries)) : Prop where
  answered : ∀ query reply, ⟨.node query, reply⟩ ∈ talk → ∃ value, reply = .ok value
  upcoming : ∀ reported assignments, ⟨.node .upcoming, .ok (reported, assignments)⟩ ∈ talk →
    reported = epoch + 1 ∧ ∃ next, Schedule.build relay.length (epoch + 1) assignments = .ok next
  duties : ∀ fresh, ⟨.node (.duties epoch), .ok fresh⟩ ∈ talk →
    ∃ schedule, Schedule.build relay.length epoch fresh = .ok schedule
  agreed : ∀ cached fresh verdict, ⟨.compare cached fresh, verdict⟩ ∈ talk → verdict = .ok ()

theorem Smooth.exists_next {reply : Outcome (Epoch × List Assignment)}
    (h : relay.Smooth epoch talk) (hmem : ⟨.node .upcoming, reply⟩ ∈ talk) :
    ∃ next, relay.nextFrom epoch reply = .ok next := by
  obtain ⟨⟨reported, assignments⟩, rfl⟩ := h.answered _ _ hmem
  obtain ⟨rfl, next, hbuild⟩ := h.upcoming _ _ hmem
  exact ⟨next, nextFrom_of_build hbuild⟩

theorem CurrentTalk.exists_ok {out : Outcome Schedule} {whole : List (Exchange Inquiries)}
    (h : relay.CurrentTalk epoch known talk out) (hsmooth : relay.Smooth epoch whole)
    (htalk : ∀ exchange ∈ talk, exchange ∈ whole) : ∃ schedule, out = .ok schedule := by
  cases h with
  | @unbuilt reply failure hfailed =>
    have hmem := htalk _ List.mem_cons_self
    obtain ⟨fresh, rfl⟩ := hsmooth.answered _ _ hmem
    obtain ⟨schedule, hbuild⟩ := hsmooth.duties fresh hmem
    cases hbuild.symm.trans hfailed
  | alone _ _ => exact ⟨_, rfl⟩
  | compared _ _ =>
    have hmem := htalk _ (List.mem_cons_of_mem _ List.mem_cons_self)
    obtain rfl := hsmooth.agreed _ _ _ hmem
    exact ⟨_, rfl⟩

/-- **Where everything goes smoothly the refresh goes through.** -/
theorem OpenTalk.exists_ok {out : Outcome (Window × Acknowledgement)}
    (h : relay.OpenTalk window epoch firstRun talk out) (hsmooth : relay.Smooth epoch talk) :
    ∃ value, out = .ok value := by
  -- A failure of the last part has been replied to a payload.
  have hpublished : ∀ said : List (Exchange Nodes), HandedOver said out →
      (∀ exchange ∈ said, exchange.inquiry ∈ talk) → ∃ value, out = .ok value := by
    intro said hsaid hmem
    cases hout : out with
    | ok value => exact ⟨value, rfl⟩
    | error failure =>
      obtain ⟨payload, hpayload⟩ := hsaid.failure failure hout
      obtain ⟨value, heq⟩ := hsmooth.answered _ _ (hmem _ hpayload)
      cases heq
  cases h with
  | refused hrefused =>
    obtain ⟨next, hnext⟩ := hsmooth.exists_next List.mem_cons_self
    cases hnext.symm.trans hrefused
  | unasked _ _ hsaid =>
    refine hpublished _ hsaid fun exchange hexchange => ?_
    exact List.mem_cons_of_mem _ (List.mem_map_of_mem hexchange)
  | aborted _ _ hcurrent =>
    obtain ⟨schedule, heq⟩ := hcurrent.exists_ok hsmooth fun _ => List.mem_cons_of_mem _
    cases heq
  | asked _ _ _ hsaid =>
    refine hpublished _ hsaid fun exchange hexchange => ?_
    exact List.mem_cons_of_mem _ (List.mem_append_right _ (List.mem_map_of_mem hexchange))

/-! ## In a turn -/

variable {turn : Turn} {head : Slot}

/-- The head was seen at the slot in the turn. -/
def Turn.Sees (turn : Turn) (head : Slot) : Prop := turn.talk.head? = some ⟨.head, .ok head⟩

/-- A refresh for the epoch is due in the turn, and this is what is said in it, with every comparison put as
a question and settled. -/
structure Turn.Refreshes (relay : Relay) (turn : Turn) (epoch : Epoch)
    (talk : List (Exchange Inquiries)) : Prop where
  talk_eq : ∃ head, relay.length.epochOf head = epoch ∧
    turn.talk = ⟨.head, .ok head⟩ :: talk.filterMap Exchange.node?
  due : turn.before.progress.IsDue epoch
  leads : ∃ out, (relay.openRefresh turn.before.window epoch turn.before.progress.firstRun).run.Leads
      talk out ∧
    turn.result = out.map fun refreshed => .committed epoch refreshed.2
  settled : Settled talk

/-- In the refresh for the epoch fresh duties are compared with a known schedule. -/
def Turn.Compares (relay : Relay) (turn : Turn) (epoch : Epoch) (cached : Schedule)
    (fresh : List Assignment) : Prop :=
  ∃ talk verdict, turn.Refreshes relay epoch talk ∧ ⟨.compare cached fresh, verdict⟩ ∈ talk

/-- **Every refresh that is due takes place**, and can be told with its comparisons. -/
theorem exists_refreshes (htick : (relay.tick turn.before).Leads turn.talk (turn.result, turn.after))
    (hsees : turn.Sees head) (hdue : turn.before.progress.IsDue (relay.length.epochOf head)) :
    ∃ talk, turn.Refreshes relay (relay.length.epochOf head) talk := by
  obtain ⟨reply, said, htalk, hrest⟩ := leads_asking_iff.mp htick
  have hreply : reply = .ok head := by
    unfold Turn.Sees at hsees
    rw [htalk] at hsees
    cases hsees
    rfl
  subst hreply
  have htransition : turn.before.progress.transition relay.length head =
      .due (relay.length.epochOf head) turn.before.progress.firstRun :=
    Progress.transition_eq_due_iff.mpr ⟨rfl, rfl, hdue⟩
  obtain ⟨refreshed, hrefresh, heq⟩ := (tickAt_leads_iff_of_due htransition).mp hrest
  obtain ⟨talk, hleads, hsettled, rfl⟩ := leads_refresh_iff.mp hrefresh
  refine ⟨talk, ⟨head, rfl, htalk⟩, hdue, ⟨refreshed, hleads, ?_⟩, hsettled⟩
  have hresult := congrArg Prod.fst heq
  cases refreshed with
  | error failure => exact hresult
  | ok refreshed => exact hresult

theorem mem_nodes_iff {query : Nodes.Query} {reply : Outcome (Nodes.Value query)} :
    ⟨query, reply⟩ ∈ talk.filterMap Exchange.node? ↔ ⟨.node query, reply⟩ ∈ talk := by
  rw [List.mem_filterMap]
  constructor
  · rintro ⟨⟨inquiry, reply'⟩, hmem, heq⟩
    cases inquiry with
    | node query' => cases heq; exact hmem
    | compare cached fresh => cases heq
  · intro hmem
    exact ⟨_, hmem, rfl⟩

/-- What is said in the refresh is all that is said in the turn besides the head. -/
theorem Turn.Refreshes.mem_iff {query : Nodes.Query} {reply : Outcome (Nodes.Value query)}
    (h : turn.Refreshes relay epoch talk) (hquery : query ≠ .head) :
    ⟨query, reply⟩ ∈ turn.talk ↔ ⟨.node query, reply⟩ ∈ talk := by
  obtain ⟨head, _, htalk⟩ := h.talk_eq
  rw [htalk, List.mem_cons, mem_nodes_iff]
  constructor
  · rintro (heq | hmem)
    · cases heq
      exact absurd rfl hquery
    · exact hmem
  · exact Or.inr

theorem Turn.Refreshes.mem_upcoming_iff {reply : Outcome (Epoch × List Assignment)}
    (h : turn.Refreshes relay epoch talk) :
    ⟨.upcoming, reply⟩ ∈ turn.talk ↔ ⟨.node .upcoming, reply⟩ ∈ talk := h.mem_iff nofun

theorem Turn.Refreshes.mem_duties_iff {asked : Epoch} {reply : Outcome (List Assignment)}
    (h : turn.Refreshes relay epoch talk) :
    ⟨.duties asked, reply⟩ ∈ turn.talk ↔ ⟨.node (.duties asked), reply⟩ ∈ talk := h.mem_iff nofun

theorem Turn.Refreshes.openTalk (h : turn.Refreshes relay epoch talk) :
    ∃ out, relay.OpenTalk turn.before.window epoch turn.before.progress.firstRun talk out ∧
      turn.result = out.map fun refreshed => .committed epoch refreshed.2 := by
  obtain ⟨out, hleads, hresult⟩ := h.leads
  exact ⟨out, openTalk_of_leads hleads, hresult⟩

end Relay
end DutyRelay
