import DutyRelay.Proofs.Exchange

/-!
# What is said when another party is asked

With `Dialogue.via` the questions of a dialogue are not put as they are: each of them is answered by a
dialogue with another party. What is said to that party then falls into pieces, one for each question of the
first dialogue, and the first dialogue goes on as if it had been replied to itself.

## Contents
- `via_bind`: one piece of work after another.
- `Answered`, `leads_via_iff`: what is said to the other party.
- `viaAttempt`, `viaAttempt_bind`: the same for work that may fail.
-/

namespace DutyRelay

namespace Dialogue

variable {I J : Interface} {α β ε : Type} {answer : (query : I.Query) → Dialogue J (I.Reply query)}

theorem via_bind (d : Dialogue I α) (f : α → Dialogue I β) :
    (d.bind f).via answer = (d.via answer).bind fun a => (f a).via answer := by
  induction d with
  | done value => rfl
  | asking query next ih => simp [bind, via, ih, bind_assoc]
  | noting lines rest ih => simp [bind, via, ih]
  | pausing span rest ih => simp [bind, via, ih]

/-! ## What is said to the other party -/

/-- What is said to the other party answers the questions in the list, one after another, with the replies
in the list. -/
def Answered (answer : (query : I.Query) → Dialogue J (I.Reply query)) :
    List (Exchange I) → List (Exchange J) → Prop
  | [], said => said = []
  | ⟨query, reply⟩ :: talk, said =>
    ∃ earlier later, said = earlier ++ later ∧ (answer query).Leads earlier reply ∧
      Answered answer talk later

/-- **What is said through another party.** The questions of the dialogue are answered by what is said to
the other party, and the dialogue comes to what these answers lead to. -/
theorem leads_via_iff {d : Dialogue I α} {said : List (Exchange J)} {value : α} :
    (d.via answer).Leads said value ↔ ∃ talk, d.Leads talk value ∧ Answered answer talk said := by
  constructor
  · intro h
    -- The pieces are found question by question, from what the dialogue still has to ask.
    induction d generalizing said with
    | done value' =>
      obtain ⟨rfl, rfl⟩ := leads_done_iff.mp h
      exact ⟨[], .done, rfl⟩
    | asking query next ih =>
      obtain ⟨earlier, later, reply, rfl, hanswer, hrest⟩ := leads_bind_iff.mp h
      obtain ⟨talk, htalk, hanswered⟩ := ih reply hrest
      exact ⟨⟨query, reply⟩ :: talk, .asking htalk, earlier, later, rfl, hanswer, hanswered⟩
    | noting lines rest ih =>
      obtain ⟨talk, htalk, hanswered⟩ := ih (leads_noting_iff.mp h)
      exact ⟨talk, .noting htalk, hanswered⟩
    | pausing span rest ih =>
      obtain ⟨talk, htalk, hanswered⟩ := ih (leads_pausing_iff.mp h)
      exact ⟨talk, .pausing htalk, hanswered⟩
  · rintro ⟨talk, htalk, hanswered⟩
    -- And they are put together along what was said in it.
    induction htalk generalizing said with
    | done =>
      obtain rfl : said = [] := hanswered
      exact .done
    | asking _ ih =>
      obtain ⟨earlier, later, rfl, hanswer, hlater⟩ := hanswered
      exact hanswer.bind (ih hlater)
    | noting _ ih => exact .noting (ih hanswered)
    | pausing _ ih => exact .pausing (ih hanswered)

/-! ## Work that may fail -/

/-- An attempt whose questions are answered by dialogues with another party. -/
def viaAttempt (answer : (query : I.Query) → Dialogue J (I.Reply query))
    (x : ExceptT ε (Dialogue I) α) : ExceptT ε (Dialogue J) α := ExceptT.mk (x.run.via answer)

theorem viaAttempt_bind (x : ExceptT ε (Dialogue I) α) (f : α → ExceptT ε (Dialogue I) β) :
    viaAttempt answer (x >>= f) = viaAttempt answer x >>= fun a => viaAttempt answer (f a) := by
  show (x.run.bind _).via answer = (x.run.via answer).bind _
  rw [via_bind]
  congr 1
  funext out
  cases out <;> rfl

theorem viaAttempt_map (x : ExceptT ε (Dialogue I) α) (f : α → β) :
    viaAttempt answer (f <$> x) = f <$> viaAttempt answer x := by
  rw [← bind_pure_comp, ← bind_pure_comp, viaAttempt_bind]
  rfl

end Dialogue
end DutyRelay
