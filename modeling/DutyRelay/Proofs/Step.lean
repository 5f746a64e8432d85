import DutyRelay.Nodes
import DutyRelay.Proofs.Exchange
import DutyRelay.Proofs.Window

/-!
# Steps in a row

What a tick does can be written down as a list of steps: a question to a node, or a look at a reply that
has come. Each step may have a fault. The steps are taken in order up to the first one with a fault,
and that fault is what they come to; if there is none they come to a value.

## Contents
- `Step`, `Step.ask`, `Step.look`.
- `Step.firstFault`, `Step.talk`, `Step.conclude`: what a list of steps comes to, and what is said.
- `Step.talk_append_of_fault`, `Step.talk_append_of_none`: one list of steps after another.
- `Step.talk_prefix`: what is said is the beginning of what would be said without faults.
- `Follows`, `Follows.bind`: attempts that do what a list of steps says.
-/

namespace DutyRelay

/-- Part of a tick: what is said to a node and by it, if anything is, and what goes wrong, if anything
does. -/
structure Step where
  exchange : Option (Exchange Nodes)
  fault : Option Failure

namespace Step

variable {α : Type} {steps first second : List Step} {failure : Failure}

/-- A question. Its fault is that of the reply. -/
def ask (query : Nodes.Query) (reply : Outcome (Nodes.Value query)) : Step :=
  ⟨some ⟨query, reply⟩, fault? reply⟩

/-- A look at a reply that has come, with what is wrong about it. -/
def look (reply : Outcome α) (wrong : α → Option Failure) : Step :=
  ⟨none, match reply with
    | .ok value => wrong value
    | .error _ => none⟩

/-! ## Taking steps -/

/-- The fault of the first step that has one. -/
def firstFault (steps : List Step) : Option Failure := steps.findSome? fault

/-- The steps up to the first one with a fault, which is taken too. -/
def taken : List Step → List Step
  | [] => []
  | step :: rest => step :: if step.fault.isSome then [] else taken rest

/-- All that would be said if no step had a fault. -/
def fullTalk (steps : List Step) : List (Exchange Nodes) := steps.filterMap exchange

/-- What is said in the steps that are taken. -/
def talk (steps : List Step) : List (Exchange Nodes) := fullTalk (taken steps)

/-- The first fault, or the value if there is none. -/
def conclude (steps : List Step) (value : α) : Outcome α :=
  match firstFault steps with
  | some failure => .error failure
  | none => .ok value

/-! ## One list after another -/

@[simp] theorem firstFault_nil : firstFault [] = none := rfl

@[simp] theorem firstFault_append :
    firstFault (first ++ second) = (firstFault first).or (firstFault second) := by
  unfold firstFault
  rw [List.findSome?_append]

@[simp] theorem firstFault_ask {query : Nodes.Query} {reply : Outcome (Nodes.Value query)} :
    firstFault (ask query reply :: steps) = (fault? reply).or (firstFault steps) := by
  cases reply <;> rfl

@[simp] theorem firstFault_look_ok {value : α} {wrong : α → Option Failure} :
    firstFault (look (.ok value) wrong :: steps) = (wrong value).or (firstFault steps) := by
  unfold firstFault
  rw [List.findSome?_cons]
  have hfault : (look (.ok value) wrong).fault = wrong value := rfl
  rw [hfault]
  cases wrong value <;> rfl

theorem taken_append_of_fault (h : firstFault first = some failure) :
    taken (first ++ second) = taken first := by
  induction first with
  | nil => cases h
  | cons step rest ih =>
    show step :: _ = step :: _
    cases hfault : step.fault with
    | some _ => rfl
    | none =>
      have hrest : firstFault rest = some failure := by
        rwa [firstFault, List.findSome?_cons, hfault] at h
      simp [ih hrest]

theorem taken_append_of_none (h : firstFault first = none) :
    taken (first ++ second) = taken first ++ taken second := by
  induction first with
  | nil => rfl
  | cons step rest ih =>
    have hfault : step.fault = none := (List.findSome?_eq_none_iff.mp h) step List.mem_cons_self
    have hrest : firstFault rest = none := by
      rwa [firstFault, List.findSome?_cons, hfault] at h
    show step :: _ = step :: _ ++ _
    simp [hfault, ih hrest]

/-- Nothing is said after a fault. -/
theorem talk_append_of_fault (h : firstFault first = some failure) :
    talk (first ++ second) = talk first := by
  rw [talk, taken_append_of_fault h, talk]

theorem talk_append_of_none (h : firstFault first = none) :
    talk (first ++ second) = talk first ++ talk second := by
  unfold talk fullTalk
  rw [taken_append_of_none h, List.filterMap_append]

theorem talk_eq_fullTalk (h : firstFault steps = none) : talk steps = fullTalk steps := by
  induction steps with
  | nil => rfl
  | cons step rest ih =>
    have hfault : step.fault = none := (List.findSome?_eq_none_iff.mp h) step List.mem_cons_self
    have hrest : firstFault rest = none := by
      rwa [firstFault, List.findSome?_cons, hfault] at h
    have htaken : taken (step :: rest) = step :: taken rest := by simp [taken, hfault]
    rw [talk, htaken, fullTalk, fullTalk, List.filterMap_cons, List.filterMap_cons]
    rw [← fullTalk, ← fullTalk, ← talk, ih hrest]

/-- **What is said is the beginning of what would be said without faults.** -/
theorem talk_prefix (steps : List Step) : talk steps <+: fullTalk steps := by
  -- The steps that are taken come first, and what is said keeps their order.
  have htaken : taken steps <+: steps := by
    induction steps with
    | nil => exact List.prefix_rfl
    | cons step rest ih =>
      unfold taken
      refine List.cons_prefix_cons.mpr ⟨rfl, ?_⟩
      cases step.fault with
      | some _ => exact List.nil_prefix
      | none => exact ih
  obtain ⟨later, hlater⟩ := htaken
  refine ⟨fullTalk later, ?_⟩
  rw [talk, fullTalk, fullTalk, ← List.filterMap_append, hlater, fullTalk]

/-- Looks say nothing. -/
theorem talk_ask_looks {query : Nodes.Query} {reply : Outcome (Nodes.Value query)}
    {looks : List Step} (h : ∀ step ∈ looks, step.exchange = none) :
    talk (ask query reply :: looks) = [⟨query, reply⟩] := by
  have hlooks : talk looks = [] :=
    List.prefix_nil.mp (List.filterMap_eq_nil_iff.mpr h ▸ talk_prefix looks)
  have htalk : talk (ask query reply :: looks) =
      ⟨query, reply⟩ :: fullTalk (if (ask query reply).fault.isSome then [] else taken looks) := rfl
  rw [htalk]
  split
  · rfl
  · rw [← talk, hlooks]

/-! ## What steps come to -/

theorem conclude_of_fault (h : firstFault steps = some failure) (value : α) :
    conclude steps value = .error failure := by
  unfold conclude
  rw [h]

theorem conclude_of_none (h : firstFault steps = none) (value : α) :
    conclude steps value = .ok value := by
  unfold conclude
  rw [h]

end Step

/-! ## Attempts that follow steps -/

/-- An attempt follows steps if it says what they say and comes to what they come to, where `R` stands
for the replies that it may get. -/
structure Follows {R α : Type} (x : ExceptT Failure (Dialogue Nodes) α) (steps : R → List Step)
    (outcome : R → Outcome α) : Prop where
  leads_iff : ∀ {talk out},
    x.run.Leads talk out ↔ ∃ replies, talk = Step.talk (steps replies) ∧ out = outcome replies
  fault_eq : ∀ replies, Step.firstFault (steps replies) = fault? (outcome replies)

section

variable {R R' α β : Type} {x : ExceptT Failure (Dialogue Nodes) α}
  {f : α → ExceptT Failure (Dialogue Nodes) β} {steps : R → List Step} {outcome : R → Outcome α}

/-- **Steps after steps.** Where the first attempt comes to a value the second one follows its steps;
where it has a fault, no second attempt is made, and the steps of it are not taken. -/
theorem Follows.bind [Inhabited R'] {steps' : R → R' → List Step} {outcome' : α → R' → Outcome β}
    (hx : Follows x steps outcome)
    (hf : ∀ replies a, outcome replies = .ok a →
      Follows (f a) (steps' replies) (outcome' a)) :
    Follows (x >>= f) (fun replies : R × R' => steps replies.1 ++ steps' replies.1 replies.2)
      (fun replies => (outcome replies.1).bind fun a => outcome' a replies.2) where
  leads_iff := by
    intro talk out
    rw [Dialogue.leads_attempt_bind_iff]
    constructor
    · rintro (⟨failure, hfail, rfl⟩ | ⟨earlier, later, a, rfl, hok, hlater⟩)
      · -- The second attempt is not made, so any replies will do for it.
        obtain ⟨replies, rfl, heq⟩ := hx.leads_iff.mp hfail
        have hfault : Step.firstFault (steps replies) = some failure := by
          rw [hx.fault_eq, ← heq]; rfl
        refine ⟨(replies, default), (Step.talk_append_of_fault hfault).symm, ?_⟩
        rw [← heq]
        rfl
      · obtain ⟨replies, rfl, heq⟩ := hx.leads_iff.mp hok
        obtain ⟨replies', rfl, rfl⟩ := (hf replies a heq.symm).leads_iff.mp hlater
        have hnone : Step.firstFault (steps replies) = none := by rw [hx.fault_eq, ← heq]; rfl
        refine ⟨(replies, replies'), (Step.talk_append_of_none hnone).symm, ?_⟩
        rw [← heq]
        rfl
    · rintro ⟨⟨replies, replies'⟩, rfl, rfl⟩
      cases heq : outcome replies with
      | error failure =>
        have hfault : Step.firstFault (steps replies) = some failure := by
          rw [hx.fault_eq, heq]; rfl
        exact Or.inl ⟨failure,
          hx.leads_iff.mpr ⟨replies, Step.talk_append_of_fault hfault, heq.symm⟩, rfl⟩
      | ok a =>
        have hnone : Step.firstFault (steps replies) = none := by rw [hx.fault_eq, heq]; rfl
        exact Or.inr ⟨_, _, a, Step.talk_append_of_none hnone,
          hx.leads_iff.mpr ⟨replies, rfl, heq.symm⟩,
          (hf replies a heq).leads_iff.mpr ⟨replies', rfl, rfl⟩⟩
  fault_eq := by
    rintro ⟨replies, replies'⟩
    rw [Step.firstFault_append, hx.fault_eq]
    cases heq : outcome replies with
    | error failure => rfl
    | ok a => exact (hf replies a heq).fault_eq replies'

/-- Journal lines ahead of an attempt are no step. -/
theorem Follows.note {lines : List Line} {g : Unit → ExceptT Failure (Dialogue Nodes) α}
    (h : Follows (g ()) steps outcome) :
    Follows (ExceptT.lift (Dialogue.note lines) >>= g) steps outcome where
  leads_iff := by
    intro talk out
    rw [Dialogue.leads_note_attempt_iff, h.leads_iff]
  fault_eq := h.fault_eq

/-- The replies may be laid out in another way, as long as all of them are covered. -/
theorem Follows.reindex (hx : Follows x steps outcome) {e : R' → R} (he : ∀ r, ∃ r', e r' = r) :
    Follows x (fun replies => steps (e replies)) (fun replies => outcome (e replies)) where
  leads_iff := by
    intro talk out
    rw [hx.leads_iff]
    constructor
    · rintro ⟨replies, rfl, rfl⟩
      obtain ⟨replies', rfl⟩ := he replies
      exact ⟨replies', rfl, rfl⟩
    · rintro ⟨replies', rfl, rfl⟩; exact ⟨e replies', rfl, rfl⟩
  fault_eq := fun replies => hx.fault_eq (e replies)

/-- An attempt that follows steps comes to their first fault, or else to its value. -/
theorem Follows.outcome_eq (hx : Follows x steps outcome) (replies : R) {value : α}
    (h : ∀ a, outcome replies = .ok a → a = value) :
    outcome replies = Step.conclude (steps replies) value := by
  unfold Step.conclude
  rw [hx.fault_eq]
  cases heq : outcome replies with
  | error failure => rfl
  | ok a => rw [h a heq]; rfl

/-- An attempt with a value at hand has no steps. -/
theorem Follows.of_pure [Inhabited R] (a : α) :
    Follows (pure a) (fun _ : R => []) (fun _ => .ok a) where
  leads_iff := by
    intro talk out
    refine Dialogue.leads_done_iff.trans ?_
    constructor
    · rintro ⟨rfl, rfl⟩; exact ⟨default, rfl, rfl⟩
    · rintro ⟨_, rfl, rfl⟩; exact ⟨rfl, rfl⟩
  fault_eq := fun _ => rfl

theorem Follows.map (hx : Follows x steps outcome) (f : α → β) :
    Follows (f <$> x) steps (fun replies => (outcome replies).map f) where
  leads_iff := by
    intro talk out
    rw [Dialogue.leads_attempt_map_iff]
    constructor
    · rintro ⟨out, hleads, rfl⟩
      obtain ⟨replies, rfl, rfl⟩ := hx.leads_iff.mp hleads
      exact ⟨replies, rfl, rfl⟩
    · rintro ⟨replies, rfl, rfl⟩
      exact ⟨_, hx.leads_iff.mpr ⟨replies, rfl, rfl⟩, rfl⟩
  fault_eq := by
    intro replies
    rw [hx.fault_eq]
    cases outcome replies <;> rfl

end

end DutyRelay
