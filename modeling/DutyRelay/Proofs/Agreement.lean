import DutyRelay.Proofs.Publication

/-!
# Which payloads the execution node accepts

The execution node should never be shown two different lists of proposers for one epoch. Completed
refreshes keep to this, since their payloads are for ever later epochs. One kind of tick does not: at the
first refresh the payload of the current epoch may be accepted and the one of the next epoch fail. The tick
is torn then. It leaves nothing behind to compare with, so duties that have changed in the meantime are
published the next time. This file says exactly when payloads agree over a run, and shows one where they
do not.

## Contents
- `Turn.accepted`, `Agree`, `Turn.IsTorn`.
- `torn_of_tick`: what happens in a torn turn.
- `accepted_agree_iff`: payloads agree exactly if those of torn turns do.
- `retried`, `not_agree_of_drift`: a run where they do not.
-/

namespace DutyRelay

namespace Relay

variable {relay : Relay} {state : State} {turns : List Turn} {turn : Turn} {epoch : Epoch}
  {firstRun : Bool} {replies : Replies} {failure : Failure}

/-! ## Accepted payloads -/

/-- The payload of a call that was accepted. -/
def accepted? (call : Call) : Option Payload :=
  match call.reply with
  | .ok true => some call.payload
  | .ok false => none
  | .error _ => none

/-- The payloads that the execution node accepted in a turn. -/
def Turn.accepted (turn : Turn) : List Payload := (calls turn.talk).filterMap accepted?

/-- Accepted payloads for one epoch have the same list of keys. -/
def Agree (turns : List Turn) : Prop :=
  ∀ turn ∈ turns, ∀ other ∈ turns, ∀ p ∈ turn.accepted, ∀ q ∈ other.accepted,
    p.epoch = q.epoch → p.keys = q.keys

/-- A payload was accepted, but no refresh completed. -/
def Turn.IsTorn (turn : Turn) : Prop := turn.commits = false ∧ turn.accepted ≠ []

theorem accepted?_eq_some_iff {call : Call} {p : Payload} :
    accepted? call = some p ↔ call.payload = p ∧ call.reply = .ok true := by
  obtain ⟨payload, reply⟩ := call
  cases reply with
  | error failure => exact ⟨nofun, fun h => nomatch h.2⟩
  | ok answer =>
    cases answer with
    | false => exact ⟨nofun, fun h => nomatch h.2⟩
    | true => exact ⟨fun h => ⟨Option.some.inj h, rfl⟩, fun h => congrArg some h.1⟩

theorem mem_payloads_of_accepted {p : Payload} (h : p ∈ turn.accepted) : p ∈ turn.payloads := by
  obtain ⟨call, hcall, haccepted⟩ := List.mem_filterMap.mp h
  exact List.mem_map.mpr ⟨call, hcall, (accepted?_eq_some_iff.mp haccepted).1⟩

/-! ## Torn turns -/

/-- **What happens in a torn turn**: at the first refresh the payload of the current epoch was accepted,
and the payload of the next one failed. -/
theorem torn_of_tick {talk : List (Exchange Nodes)} {result : Outcome TickResult} {after : State}
    (htick : (relay.tick state).Leads talk (result, after))
    (htorn : (⟨state, talk, result, after⟩ : Turn).IsTorn) :
    state.progress.firstRun = true ∧ ∃ p q failure, q.epoch = p.epoch + 1 ∧
      calls talk = [⟨p, .ok true⟩, ⟨q, .error failure⟩] ∧ result = .error failure := by
  obtain ⟨hcommits, haccepted⟩ := htorn
  obtain ⟨p, hp⟩ := List.exists_mem_of_ne_nil _ haccepted
  obtain ⟨call, hcall, haccepts⟩ := List.mem_filterMap.mp hp
  obtain ⟨rfl, htrue⟩ := accepted?_eq_some_iff.mp haccepts
  obtain ⟨hfirst, q, failure, hepochs, hcalls, hresult⟩ :=
    answered_of_uncommitted htick hcommits hcall htrue
  refine ⟨hfirst, call.payload, q, failure, hepochs, ?_, hresult⟩
  rw [hcalls, ← htrue]

/-! ## Agreement over a run -/

/-- **Accepted payloads agree exactly if those of torn turns do.** A payload is accepted in a completed
refresh or in a torn turn, that is at the first refresh, as the only one, right before the payload of the
next epoch fails. Between completed refreshes there is never a disagreement, so all that can go wrong is
that a payload of a torn turn differs from another one for the same epoch. -/
theorem accepted_agree_iff (hrun : relay.Run State.start turns state) :
    (∀ turn ∈ turns, turn.IsTorn → turn.before.progress.firstRun = true ∧
      ∃ p q failure, q.epoch = p.epoch + 1 ∧
        calls turn.talk = [⟨p, .ok true⟩, ⟨q, .error failure⟩] ∧ turn.result = .error failure) ∧
    (Agree turns ↔ ∀ turn ∈ turns, turn.IsTorn → ∀ other ∈ turns,
      ∀ p ∈ turn.accepted, ∀ q ∈ other.accepted, p.epoch = q.epoch → p.keys = q.keys) := by
  refine ⟨fun turn hturn htorn => torn_of_tick (hrun.tick_of_mem hturn) htorn, ?_⟩
  constructor
  · intro hagree turn hturn _ other hother
    exact hagree turn hturn other hother
  · intro htorn turn hturn other hother p hp q hq hepoch
    -- If neither turn is torn, both payloads are in the ledger of completed refreshes.
    have hcommits : ∀ {turn : Turn} {p : Payload}, p ∈ turn.accepted → ¬ turn.IsTorn →
        turn.commits = true := by
      intro turn p hp hwhole
      cases hcommits : turn.commits with
      | true => rfl
      | false => exact absurd ⟨hcommits, List.ne_nil_of_mem hp⟩ hwhole
    by_cases hthis : turn.IsTorn
    · exact htorn turn hturn hthis other hother p hp q hq hepoch
    by_cases hthat : other.IsTorn
    · exact (htorn other hother hthat turn hturn q hq p hp hepoch.symm).symm
    · have hpledger := mem_ledger hturn (hcommits hp hthis) (mem_payloads_of_accepted hp)
      have hqledger := mem_ledger hother (hcommits hq hthat) (mem_payloads_of_accepted hq)
      rw [hrun.ordered.eq_of_epoch hpledger hqledger hepoch]

/-! ## A torn turn, and a second attempt -/

/-- Epochs of four slots, on a chain that starts at time 1000. -/
def shortEpochs : Config := { Config.standard 1000 with slotsPerEpoch := 4 }

/-- The relay with this configuration. -/
def shortRelay : Relay :=
  { standard with length := ⟨4, (by decide : 0 < shortEpochs.slotsPerEpoch)⟩, calendar := ⟨1000, Span.ofSeconds 6⟩ }

/-- The head is in epoch 2, where the validator proposes one slot. -/
def duties (validator : ValidatorIndex) (key : PublicKey) (last : Outcome Bool) : Replies :=
  ⟨.ok 8, .ok (3, [⟨5, ⟨[0xcc]⟩, [12]⟩]), .ok [⟨validator, key, [8]⟩], .ok true, last⟩

/-- The first attempt: validator 1 proposes, and the payload of epoch 3 fails. -/
def torn : Replies := duties 1 ⟨[0xaa]⟩ (.error (.unavailable "execution node"))

/-- A torn turn, and then an attempt with duties that may be other ones by now. -/
def retried (validator : ValidatorIndex) (key : PublicKey) : List Turn :=
  [⟨State.start,
    ⟨.head, .ok 8⟩ :: Step.talk (shortRelay.refreshSteps Window.empty 2 true torn),
    .error (.unavailable "execution node"),
    State.start.see 8⟩,
   ⟨State.start.see 8,
    ⟨.head, .ok 8⟩ ::
      Step.fullTalk (shortRelay.refreshSteps Window.empty 2 true (duties validator key (.ok true))),
    .ok (.committed 2 .accepted),
    (State.start.see 8).commit 2
      (shortRelay.windowAfter Window.empty 2 (duties validator key (.ok true)))⟩]

theorem retried_run (validator : ValidatorIndex) (key : PublicKey) :
    ∃ state, shortRelay.Run State.start (retried validator key) state := by
  have hdue : ∀ state : State, state.progress.firstRun = true →
      state.progress.transition shortRelay.length 8 = .due 2 true :=
    fun _ hfirst => Progress.transition_eq_due_iff.mpr ⟨rfl, hfirst.symm, Or.inl hfirst⟩
  have hslots : Schedule.strayFault? shortRelay.length 2 [⟨validator, key, [8]⟩] = none := by
    refine Schedule.strayFault?_eq_none_iff.mpr fun assignment hassignment slot hslot => ?_
    obtain rfl := List.mem_singleton.mp hassignment
    obtain rfl := List.mem_singleton.mp hslot
    rfl
  have hclean : shortRelay.Clean Window.empty 2 true (duties validator key (.ok true)) :=
    ⟨⟨_, rfl, rfl⟩, fun _ => ⟨_, rfl, hslots, nofun⟩, fun _ => ⟨true, rfl⟩, ⟨true, rfl⟩⟩
  have hfirst : shortRelay.Course State.start torn _ _ _ := .aborted rfl (hdue _ rfl) rfl
  have hsecond : shortRelay.Course (State.start.see 8) (duties validator key (.ok true)) _ _ _ :=
    .committed rfl (hdue _ rfl) (clean_iff.mpr hclean)
  exact ⟨_, (Run.single (tick_leads_iff.mpr ⟨_, hfirst⟩)).tail (tick_leads_iff.mpr ⟨_, hsecond⟩)⟩

/-- Where the duties have stayed the same, the payload of the torn turn is accepted a second time, and
there is no disagreement. -/
theorem agree_of_steady_duties :
    (∃ state, shortRelay.Run State.start (retried 1 ⟨[0xaa]⟩) state) ∧
    (∃ turn ∈ retried 1 ⟨[0xaa]⟩, turn.IsTorn) ∧ Agree (retried 1 ⟨[0xaa]⟩) := by
  obtain ⟨state, hrun⟩ := retried_run 1 ⟨[0xaa]⟩
  refine ⟨⟨state, hrun⟩, ⟨_, List.mem_cons_self, rfl, nofun⟩, (accepted_agree_iff hrun).2.mpr ?_⟩
  intro turn hturn htorn other hother p hp q hq hepoch
  rcases List.mem_cons.mp hturn with rfl | hturn
  · have hp : p ∈ [(⟨2, ["0xaa"], 1048⟩ : Payload)] := hp
    obtain rfl := List.mem_singleton.mp hp
    rcases List.mem_cons.mp hother with rfl | hother
    · have hq : q ∈ [(⟨2, ["0xaa"], 1048⟩ : Payload)] := hq
      rw [List.mem_singleton.mp hq]
    · obtain rfl := List.mem_singleton.mp hother
      have hq : q ∈ [(⟨2, ["0xaa"], 1048⟩ : Payload), ⟨3, ["0xcc"], 1072⟩] := hq
      rcases List.mem_cons.mp hq with rfl | hq
      · rfl
      · rw [List.mem_singleton.mp hq] at hepoch
        exact absurd hepoch (by decide)
  · -- The second turn completed its refresh.
    obtain rfl := List.mem_singleton.mp hturn
    cases htorn.1

/-- **Payloads need not agree.** The duties change between a torn turn and the next attempt, which is not
compared with it: the execution node accepts two lists of proposers for one epoch. -/
theorem not_agree_of_drift :
    Relay.ofConfig shortEpochs = .ok shortRelay ∧
    (∃ state, shortRelay.Run State.start (retried 2 ⟨[0xbb]⟩) state) ∧
    (retried 2 ⟨[0xbb]⟩).map Turn.accepted =
      [[⟨2, ["0xaa"], 1048⟩], [⟨2, ["0xbb"], 1048⟩, ⟨3, ["0xcc"], 1072⟩]] ∧
    ¬ Agree (retried 2 ⟨[0xbb]⟩) := by
  have haccepted : (retried 2 ⟨[0xbb]⟩).map Turn.accepted =
      [[⟨2, ["0xaa"], 1048⟩], [⟨2, ["0xbb"], 1048⟩, ⟨3, ["0xcc"], 1072⟩]] := rfl
  refine ⟨rfl, retried_run 2 ⟨[0xbb]⟩, haccepted, fun hagree => ?_⟩
  have hkeys : (["0xaa"] : List String) = ["0xbb"] :=
    hagree _ List.mem_cons_self _ (List.mem_cons_of_mem _ List.mem_cons_self)
      ⟨2, ["0xaa"], 1048⟩ List.mem_cons_self ⟨2, ["0xbb"], 1048⟩ List.mem_cons_self rfl
  exact absurd hkeys (by decide)

end Relay
end DutyRelay
