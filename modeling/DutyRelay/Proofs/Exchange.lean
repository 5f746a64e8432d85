import DutyRelay.Dialogue

/-!
# What is said in a dialogue

A dialogue leaves open who replies and how. `Dialogue.Leads` says what can be said in it: a list of
exchanges, each a question with its reply, and the value that they lead to. The replies are free, so a
statement about all that a dialogue leads to is one about every party that may be asked, whether its
replies depend on a state, on chance or on the time.

## Contents
- `Exchange`, `Dialogue.Leads`, with one lemma for each constructor and one for `bind`.
- `Dialogue.Leads.unique`: the exchanges decide the value.
- `leads_attempt_bind_iff`: the same for work that may fail.
- `leads_play`: what `play` carries out is said.
-/

namespace DutyRelay

/-- A question and the reply to it. -/
structure Exchange (I : Interface) where
  query : I.Query
  reply : I.Reply query

namespace Dialogue

variable {I J : Interface} {α β σ : Type}

/-- The questions of the dialogue can be replied to as in the list, nothing else is asked then, and the
value is the one given. -/
inductive Leads : Dialogue I α → List (Exchange I) → α → Prop
  | done {value} : Leads (done value) [] value
  | asking {query next reply talk value} (h : Leads (next reply) talk value) :
      Leads (asking query next) (⟨query, reply⟩ :: talk) value
  | noting {lines rest talk value} (h : Leads rest talk value) :
      Leads (noting lines rest) talk value
  | pausing {span rest talk value} (h : Leads rest talk value) :
      Leads (pausing span rest) talk value

variable {talk : List (Exchange I)}

/-! ## One lemma for each constructor -/

@[simp] theorem leads_done_iff {value value' : α} :
    (done value : Dialogue I α).Leads talk value' ↔ talk = [] ∧ value' = value := by
  constructor
  · intro h; cases h; exact ⟨rfl, rfl⟩
  · rintro ⟨rfl, rfl⟩; exact .done

theorem leads_asking_iff {query : I.Query} {next : I.Reply query → Dialogue I α} {value : α} :
    (asking query next).Leads talk value ↔
      ∃ reply rest, talk = ⟨query, reply⟩ :: rest ∧ (next reply).Leads rest value := by
  constructor
  · intro h; cases h with
    | asking h => exact ⟨_, _, rfl, h⟩
  · rintro ⟨reply, rest, rfl, h⟩; exact .asking h

@[simp] theorem leads_noting_iff {lines : List Line} {rest : Dialogue I α} {value : α} :
    (noting lines rest).Leads talk value ↔ rest.Leads talk value := by
  constructor
  · intro h; cases h with
    | noting h => exact h
  · exact .noting

@[simp] theorem leads_pausing_iff {span : Span} {rest : Dialogue I α} {value : α} :
    (pausing span rest).Leads talk value ↔ rest.Leads talk value := by
  constructor
  · intro h; cases h with
    | pausing h => exact h
  · exact .pausing

@[simp] theorem leads_ask_iff {query : I.Query} {reply : I.Reply query} :
    (ask query).Leads talk reply ↔ talk = [⟨query, reply⟩] := by
  unfold ask
  rw [leads_asking_iff]
  constructor
  · rintro ⟨reply', rest, rfl, h⟩
    obtain ⟨rfl, rfl⟩ := leads_done_iff.mp h
    rfl
  · rintro rfl; exact ⟨reply, [], rfl, .done⟩

/-! ## Sequencing -/

theorem Leads.bind {d : Dialogue I α} {f : α → Dialogue I β} {later : List (Exchange I)} {a : α}
    {b : β} (hd : d.Leads talk a) (hf : (f a).Leads later b) :
    (d.bind f).Leads (talk ++ later) b := by
  induction hd with
  | done => exact hf
  | asking _ ih => exact .asking (ih hf)
  | noting _ ih => exact .noting (ih hf)
  | pausing _ ih => exact .pausing (ih hf)

/-- What one piece of work after another leads to splits between the two. -/
theorem Leads.bind_split {d : Dialogue I α} {f : α → Dialogue I β} {b : β}
    (h : (d.bind f).Leads talk b) :
    ∃ earlier later a, talk = earlier ++ later ∧ d.Leads earlier a ∧ (f a).Leads later b := by
  induction d generalizing talk with
  | done a => exact ⟨[], talk, a, rfl, .done, h⟩
  | asking query next ih =>
    obtain ⟨reply, rest, rfl, hrest⟩ := leads_asking_iff.mp h
    obtain ⟨earlier, later, a, rfl, hd, hf⟩ := ih reply hrest
    exact ⟨_, later, a, rfl, .asking hd, hf⟩
  | noting lines rest ih =>
    obtain ⟨earlier, later, a, rfl, hd, hf⟩ := ih (leads_noting_iff.mp h)
    exact ⟨earlier, later, a, rfl, .noting hd, hf⟩
  | pausing span rest ih =>
    obtain ⟨earlier, later, a, rfl, hd, hf⟩ := ih (leads_pausing_iff.mp h)
    exact ⟨earlier, later, a, rfl, .pausing hd, hf⟩

theorem leads_bind_iff {d : Dialogue I α} {f : α → Dialogue I β} {b : β} :
    (d.bind f).Leads talk b ↔
      ∃ earlier later a, talk = earlier ++ later ∧ d.Leads earlier a ∧ (f a).Leads later b := by
  constructor
  · exact Leads.bind_split
  · rintro ⟨earlier, later, a, rfl, hd, hf⟩; exact hd.bind hf

/-- Journal lines are no part of what is said. -/
@[simp] theorem leads_note_bind_iff {lines : List Line} {f : Unit → Dialogue I α} {value : α} :
    ((note lines).bind f).Leads talk value ↔ (f ()).Leads talk value := leads_noting_iff

theorem leads_map_iff {d : Dialogue I α} {f : α → β} {b : β} :
    (f <$> d).Leads talk b ↔ ∃ a, d.Leads talk a ∧ b = f a := by
  show (d.bind fun a => done (f a)).Leads talk b ↔ _
  rw [leads_bind_iff]
  constructor
  · rintro ⟨earlier, later, a, rfl, hd, hf⟩
    obtain ⟨rfl, rfl⟩ := leads_done_iff.mp hf
    exact ⟨a, by rwa [List.append_nil], rfl⟩
  · rintro ⟨a, hd, rfl⟩
    exact ⟨talk, [], a, (List.append_nil talk).symm, hd, .done⟩

/-- **The exchanges decide the value.** -/
theorem Leads.unique {d : Dialogue I α} {a b : α} (ha : d.Leads talk a) (hb : d.Leads talk b) :
    a = b := by
  induction ha with
  | done => exact (leads_done_iff.mp hb).2.symm
  | asking _ ih =>
    obtain ⟨reply, rest, heq, hb⟩ := leads_asking_iff.mp hb
    cases heq
    exact ih hb
  | noting _ ih => exact ih (leads_noting_iff.mp hb)
  | pausing _ ih => exact ih (leads_pausing_iff.mp hb)

/-! ## Work that may fail -/

variable {ε : Type}

/-- Journal lines ahead of an attempt change nothing about what it leads to. -/
theorem leads_note_attempt_iff {lines : List Line} {g : Unit → ExceptT ε (Dialogue I) α}
    {out : Except ε α} :
    (ExceptT.lift (note lines) >>= g).run.Leads talk out ↔ (g ()).run.Leads talk out := by
  rw [ExceptT.run_bind, ExceptT.run_lift]
  exact leads_noting_iff

/-- **Work that may fail, one piece after another.** Either the first piece fails and nothing more is
said, or it comes to a value and the second piece goes on from there. -/
theorem leads_attempt_bind_iff {x : ExceptT ε (Dialogue I) α} {f : α → ExceptT ε (Dialogue I) β}
    {out : Except ε β} :
    (x >>= f).run.Leads talk out ↔
      (∃ fault, x.run.Leads talk (.error fault) ∧ out = .error fault) ∨
      ∃ earlier later a, talk = earlier ++ later ∧ x.run.Leads earlier (.ok a) ∧
        (f a).run.Leads later out := by
  -- Underneath, the second piece is guarded by a look at what the first one came to.
  rw [ExceptT.run_bind, bind_eq_bind, leads_bind_iff]
  constructor
  · rintro ⟨earlier, later, r, rfl, hx, hf⟩
    cases r with
    | ok a => exact Or.inr ⟨earlier, later, a, rfl, hx, hf⟩
    | error fault =>
      obtain ⟨rfl, rfl⟩ := leads_done_iff.mp hf
      rw [List.append_nil]
      exact Or.inl ⟨fault, hx, rfl⟩
  · rintro (⟨fault, hx, rfl⟩ | ⟨earlier, later, a, rfl, hx, hf⟩)
    · exact ⟨talk, [], .error fault, (List.append_nil talk).symm, hx, .done⟩
    · exact ⟨earlier, later, .ok a, rfl, hx, hf⟩

theorem leads_attempt_map_iff {x : ExceptT ε (Dialogue I) α} {f : α → β} {out : Except ε β} :
    (f <$> x).run.Leads talk out ↔ ∃ outcome, x.run.Leads talk outcome ∧ out = outcome.map f := by
  rw [ExceptT.run_map]
  exact leads_map_iff

/-! ## Carrying out -/

/-- **Every way to reply is followed to the end.** Carrying out a dialogue leads to its value by the
replies that the party gives. -/
theorem leads_play (answer : (query : I.Query) → σ → I.Reply query × σ) (d : Dialogue I α) (s : σ) :
    ∃ talk, d.Leads talk (d.play answer s).value := by
  -- The party's state goes on from question to question, so the induction is for every state.
  induction d generalizing s with
  | done value => exact ⟨[], .done⟩
  | asking query next ih =>
    obtain ⟨talk, hleads⟩ := ih (answer query s).1 (answer query s).2
    exact ⟨⟨query, _⟩ :: talk, .asking hleads⟩
  | noting lines rest ih =>
    obtain ⟨talk, hleads⟩ := ih s
    exact ⟨talk, .noting hleads⟩
  | pausing span rest ih =>
    obtain ⟨talk, hleads⟩ := ih s
    exact ⟨talk, .pausing hleads⟩

end Dialogue
end DutyRelay
