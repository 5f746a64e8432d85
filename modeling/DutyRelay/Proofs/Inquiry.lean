import DutyRelay.Proofs.Refresh
import DutyRelay.Proofs.Via

/-!
# Comparisons as questions

A comparison of fresh duties with a schedule that finds nothing leaves no trace, so from what is said to the
nodes alone it cannot be told whether it has taken place. Here a refresh is written down once more, with the
comparison put as a question of its own. If this question is answered by making the comparison, the result is
the refresh as it is; and what is said in it now tells which duties were compared with which schedule.

## Contents
- `Inquiry`, `Inquiries`: questions to the nodes, and comparisons.
- `Inquiry.pass`, `Inquiry.settle`: nothing is compared, and everything is.
- `Relay.openRefresh`, `openRefresh_settled`: the refresh that leaves comparisons open.
- `leads_refresh_iff`: what is said in a refresh, comparisons included.
-/

namespace DutyRelay

/-! ## Questions to the nodes, and comparisons -/

/-- A question to one of the nodes, or a comparison of fresh duties with a known schedule. -/
inductive Inquiry where
  | node (query : Nodes.Query)
  | compare (known : Schedule) (fresh : List Assignment)

/-- What an inquiry is replied with. -/
abbrev Inquiry.Answer : Inquiry → Type
  | .node query => Outcome (Nodes.Value query)
  | .compare _ _ => Outcome Unit

/-- The nodes, and one who compares, as one party. -/
abbrev Inquiries : Interface where
  Query := Inquiry
  Reply := Inquiry.Answer

namespace Inquiry

/-- A question to the nodes is passed on. -/
def pass (query : Nodes.Query) : Dialogue Inquiries (Outcome (Nodes.Value query)) :=
  @Dialogue.ask Inquiries (.node query)

/-- A question to the nodes is put to them, and a comparison is made, with its journal lines. -/
def settle : (inquiry : Inquiry) → Dialogue Nodes (Inquiry.Answer inquiry)
  | .node query => Nodes.direct query
  | .compare known fresh =>
    .noting (known.conflictLines fresh) (.done (known.checkFresh fresh))

/-- Asks for a comparison. -/
def comparing (known : Schedule) (fresh : List Assignment) :
    ExceptT Failure (Dialogue Inquiries) Unit :=
  ExceptT.mk (@Dialogue.ask Inquiries (.compare known fresh))

end Inquiry

/-- The exchange with a node, as an inquiry. -/
def Exchange.inquiry (exchange : Exchange Nodes) : Exchange Inquiries :=
  ⟨.node exchange.query, exchange.reply⟩

/-- The exchange with a node that an inquiry is, if it is one. -/
def Exchange.node? : Exchange Inquiries → Option (Exchange Nodes)
  | ⟨.node query, reply⟩ => some ⟨query, reply⟩
  | ⟨.compare _ _, _⟩ => none

/-- Every comparison has come to what it comes to. -/
def Settled (talk : List (Exchange Inquiries)) : Prop :=
  ∀ known fresh verdict, ⟨.compare known fresh, verdict⟩ ∈ talk → verdict = known.checkFresh fresh

namespace Inquiry

open Dialogue

variable {ε α : Type} {talk : List (Exchange Inquiries)} {said : List (Exchange Nodes)}

/-- What is passed on and then settled is as it was. -/
theorem settle_pass (d : Dialogue Nodes α) : (d.via pass).via settle = d := by
  induction d with
  | done value => rfl
  | asking query next ih => exact congrArg (asking query) (funext ih)
  | noting lines rest ih => exact congrArg (noting lines) ih
  | pausing span rest ih => exact congrArg (pausing span) ih

theorem viaAttempt_settle_pass (x : ExceptT ε (Dialogue Nodes) α) :
    viaAttempt settle (viaAttempt pass x) = x := settle_pass x.run

theorem settle_comparing {known : Schedule} {fresh : List Assignment} :
    viaAttempt settle (comparing known fresh) =
      (Relay.Attempt.note (known.conflictLines fresh) >>= fun _ =>
        ExceptT.mk (pure (known.checkFresh fresh))) := rfl

theorem comparing_leads_iff {known : Schedule} {fresh : List Assignment} {verdict : Outcome Unit} :
    (comparing known fresh).run.Leads talk verdict ↔ talk = [⟨.compare known fresh, verdict⟩] :=
  leads_ask_iff

theorem answered_pass_iff : Answered pass said talk ↔ talk = said.map Exchange.inquiry := by
  induction said generalizing talk with
  | nil => rfl
  | cons exchange said ih =>
    constructor
    · rintro ⟨earlier, later, rfl, hask, hlater⟩
      obtain rfl := leads_ask_iff.mp hask
      rw [ih.mp hlater]
      rfl
    · rintro rfl
      exact ⟨[exchange.inquiry], _, rfl, leads_ask_iff.mpr rfl, ih.mpr rfl⟩

/-- Passing questions on says the same, as inquiries. -/
theorem leads_pass_iff {x : ExceptT ε (Dialogue Nodes) α} {out : Except ε α} :
    (viaAttempt pass x).run.Leads talk out ↔
      ∃ said, x.run.Leads said out ∧ talk = said.map Exchange.inquiry := by
  show (x.run.via pass).Leads talk out ↔ _
  rw [leads_via_iff]
  simp only [answered_pass_iff]

theorem leads_pass_asksOnce_iff {x : Relay.Attempt α} {query : Nodes.Query}
    {outcome : Outcome (Nodes.Value query) → Outcome α} (h : AsksOnce x query outcome)
    {out : Outcome α} :
    (viaAttempt pass x).run.Leads talk out ↔
      ∃ reply, talk = [⟨.node query, reply⟩] ∧ out = outcome reply := by
  rw [leads_pass_iff]
  constructor
  · rintro ⟨said, hsaid, rfl⟩
    obtain ⟨reply, rfl, rfl⟩ := (h said out).mp hsaid
    exact ⟨reply, rfl, rfl⟩
  · rintro ⟨reply, rfl, rfl⟩
    exact ⟨_, (h _ _).mpr ⟨reply, rfl, rfl⟩, rfl⟩

theorem leads_pass_silent_iff {x : Relay.Attempt α} {outcome : Outcome α} (h : Silent x outcome)
    {out : Outcome α} :
    (viaAttempt pass x).run.Leads talk out ↔ talk = [] ∧ out = outcome := by
  rw [leads_pass_iff]
  constructor
  · rintro ⟨said, hsaid, rfl⟩
    obtain ⟨rfl, rfl⟩ := (h said out).mp hsaid
    exact ⟨rfl, rfl⟩
  · rintro ⟨rfl, rfl⟩
    exact ⟨[], (h _ _).mpr ⟨rfl, rfl⟩, rfl⟩

theorem settled_cons_node {query : Nodes.Query} {reply : Outcome (Nodes.Value query)} :
    Settled (⟨.node query, reply⟩ :: talk) ↔ Settled talk := by
  unfold Settled
  simp

theorem settled_cons_compare {known : Schedule} {fresh : List Assignment} {verdict : Outcome Unit} :
    Settled (⟨.compare known fresh, verdict⟩ :: talk) ↔
      verdict = known.checkFresh fresh ∧ Settled talk := by
  constructor
  · intro h
    exact ⟨h _ _ _ List.mem_cons_self, fun _ _ _ hmem => h _ _ _ (List.mem_cons_of_mem _ hmem)⟩
  · rintro ⟨rfl, h⟩ known' fresh' verdict hmem
    rcases List.mem_cons.mp hmem with heq | hmem
    · cases heq
      rfl
    · exact h _ _ _ hmem

/-- Settling inquiries says what is said to the nodes, and leaves out the comparisons. -/
theorem answered_settle_iff :
    Answered settle talk said ↔ Settled talk ∧ said = talk.filterMap Exchange.node? := by
  induction talk generalizing said with
  | nil => exact ⟨fun h => ⟨nofun, h⟩, And.right⟩
  | cons exchange talk ih =>
    obtain ⟨inquiry, reply⟩ := exchange
    cases inquiry with
    | node query =>
      rw [settled_cons_node]
      constructor
      · rintro ⟨earlier, later, rfl, hask, hlater⟩
        obtain rfl := leads_ask_iff.mp hask
        obtain ⟨hsettled, rfl⟩ := ih.mp hlater
        exact ⟨hsettled, rfl⟩
      · rintro ⟨hsettled, rfl⟩
        exact ⟨[⟨query, reply⟩], _, rfl, leads_ask_iff.mpr rfl, ih.mpr ⟨hsettled, rfl⟩⟩
    | compare known fresh =>
      rw [settled_cons_compare]
      constructor
      · rintro ⟨earlier, later, rfl, hcompare, hlater⟩
        obtain ⟨rfl, rfl⟩ := leads_done_iff.mp (leads_noting_iff.mp hcompare)
        obtain ⟨hsettled, rfl⟩ := ih.mp hlater
        exact ⟨⟨rfl, hsettled⟩, rfl⟩
      · rintro ⟨⟨rfl, hsettled⟩, rfl⟩
        exact ⟨[], _, rfl, .noting .done, ih.mpr ⟨hsettled, rfl⟩⟩

end Inquiry

namespace Relay

open Dialogue

variable {relay : Relay} {window : Window} {epoch : Epoch} {firstRun : Bool} {known : Option Schedule}
  {talk : List (Exchange Inquiries)}

/-! ## The refresh that leaves comparisons open -/

/-- Fetches the current epoch and builds its schedule, and asks whether the duties agree with the known
schedule. -/
def openCurrent (relay : Relay) (epoch : Epoch) (known : Option Schedule) :
    ExceptT Failure (Dialogue Inquiries) Schedule :=
  viaAttempt Inquiry.pass (ExceptT.mk (Nodes.duties epoch)) >>= fun assignments =>
    viaAttempt Inquiry.pass (relay.buildSchedule epoch assignments) >>= fun schedule =>
      match known with
      | none => pure schedule
      | some cached => (fun _ => schedule) <$> Inquiry.comparing cached assignments

/-- One refresh with the comparison as a question. -/
def openRefresh (relay : Relay) (window : Window) (epoch : Epoch) (firstRun : Bool) :
    ExceptT Failure (Dialogue Inquiries) (Window × Acknowledgement) :=
  viaAttempt Inquiry.pass (relay.fetchNext epoch) >>= fun next =>
    (if relay.revalidates firstRun (window.staged? epoch) then
        some <$> relay.openCurrent epoch (window.staged? epoch)
      else pure none) >>= fun fresh =>
    viaAttempt Inquiry.pass (relay.moving window firstRun next fresh)

theorem openCurrent_settled :
    viaAttempt Inquiry.settle (relay.openCurrent epoch known) = relay.fetchCurrent epoch known := by
  unfold openCurrent fetchCurrent
  rw [viaAttempt_bind, Inquiry.viaAttempt_settle_pass]
  congr 1
  funext assignments
  rw [viaAttempt_bind, Inquiry.viaAttempt_settle_pass]
  congr 1
  funext schedule
  cases known with
  | none => rfl
  | some cached =>
    show viaAttempt Inquiry.settle ((fun _ => schedule) <$> Inquiry.comparing cached assignments) = _
    rw [viaAttempt_map, Inquiry.settle_comparing, ← bind_pure_comp, LawfulMonad.bind_assoc]

/-- **The refresh is the open one with the comparison made.** -/
theorem openRefresh_settled :
    viaAttempt Inquiry.settle (relay.openRefresh window epoch firstRun) =
      relay.refresh window epoch firstRun := by
  have hfresh : viaAttempt Inquiry.settle
      (if relay.revalidates firstRun (window.staged? epoch) then
        some <$> relay.openCurrent epoch (window.staged? epoch) else pure none) =
      if relay.revalidates firstRun (window.staged? epoch) then
        some <$> relay.fetchCurrent epoch (window.staged? epoch) else pure none := by
    split
    · rw [viaAttempt_map, openCurrent_settled]
    · rfl
  rw [refresh_parts]
  unfold openRefresh
  simp only [viaAttempt_bind, Inquiry.viaAttempt_settle_pass, hfresh]

/-- **What is said in a refresh, comparisons included.** -/
theorem leads_refresh_iff {said : List (Exchange Nodes)} {out : Outcome (Window × Acknowledgement)} :
    (relay.refresh window epoch firstRun).run.Leads said out ↔
      ∃ talk, (relay.openRefresh window epoch firstRun).run.Leads talk out ∧ Settled talk ∧
        said = talk.filterMap Exchange.node? := by
  rw [← openRefresh_settled]
  show ((relay.openRefresh window epoch firstRun).run.via Inquiry.settle).Leads said out ↔ _
  rw [leads_via_iff]
  simp only [Inquiry.answered_settle_iff]

end Relay
end DutyRelay
