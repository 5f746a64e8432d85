import Mathlib
import DutyRelay.Proofs.Verdict
import DutyRelay.Proofs.Window
import DutyRelay.Service

/-!
# Payloads handed over one after another

The execution node gets a payload by POST, and gets it again as long as the policy allows and the response does not
settle the matter. Here any number of payloads are handed over by one service, to a server that may respond as it
likes. Every POST carries the whole payload under a number of its own, and the numbers run on from payload to
payload; what a payload comes to is what its last response comes to.

## Contents
- `insertRequest`, `Post`, `postsOf`: what is sent, with the responses.
- `insert_eq`, `posts_insert`, `value_insert`, `nextTicket_insert`: one call.
- `Submission`, `Submission.IsSettled`, `Submission.IsNumbered`: how a payload is handed over.
- `Service.submissions`: payloads one after another; `Service.attemptsAt`: the calls for one of them.
- `isSettled_submit`, `isNumbered_submit`, `nextTicket_deskAfter`: one payload.
- `submissions_settled`: all of them; `wavering`: a server that accepts one payload late and another not at all.
-/

namespace DutyRelay

open Json (Document Value)

/-! ## What is sent -/

/-- The request that hands over a payload under a number. -/
def insertRequest (url : Url) (id : Nat) (payload : Payload) : Web.Request :=
  ⟨.post, url, some (rpcRequest id insertMethod (insertParams payload)).text⟩

/-- A request that was sent, and the response to it. -/
structure Post where
  request : Web.Request
  response : Option Web.Response
deriving DecidableEq, Repr

/-- The request that was sent in an exchange, if it was not one for a ticket. -/
def post? : Exchange Web → Option Post
  | ⟨.send request, response⟩ => some ⟨request, response⟩
  | ⟨.ticket, _⟩ => none

/-- The requests among some exchanges. -/
def postsOf (talk : List (Exchange Web)) : List Post := talk.filterMap post?

/-- How a server with a state of its own responds. -/
abbrev Web.Serving (σ : Type) := Web.Request → σ → Option Web.Response × σ

/-! ## One call -/

section Call

variable {σ : Type} {serve : Web.Serving σ} {node : Execution} {url : Url} {payload : Payload}
  {desk : Web.Desk σ} {failure : Failure}

/-- The request that a call makes of the server, and the response. -/
def postFrom (serve : Web.Serving σ) (url : Url) (payload : Payload) (desk : Web.Desk σ) : Post :=
  ⟨insertRequest url desk.nextTicket payload, (serve (insertRequest url desk.nextTicket payload) desk.server).1⟩

/-- A call takes a ticket, sends one request under its number, and judges the response. -/
theorem insert_eq (hurl : Web.addressOf node.url = .ok url) :
    node.insert payload = Web.ticket.bind fun id =>
      (Dialogue.note [.debug s!"JSON-RPC call {insertMethod} (id {id}) to {node.url}"]).bind fun _ =>
      (Web.send (insertRequest url id payload)).bind fun response => .done (Execution.verdict url response) := by
  unfold Execution.insert Execution.call
  rw [hurl]
  -- What is left to compare is how the response is judged, and there may be none.
  refine congrArg Web.ticket.bind (funext fun id => congrArg (Dialogue.noting _)
    (congrArg (Web.send (insertRequest url id payload)).bind (funext fun response => ?_)))
  cases response with
  | none => rfl
  | some response => rfl

/-- Without an address to go to, a call takes a ticket and sends nothing. -/
theorem insert_eq_of_error (hurl : Web.addressOf node.url = .error failure) :
    node.insert payload = Web.ticket.bind fun id =>
      (Dialogue.note [.debug s!"JSON-RPC call {insertMethod} (id {id}) to {node.url}"]).bind fun _ =>
      .done (.error failure) := by
  unfold Execution.insert Execution.call
  rw [hurl]
  rfl

theorem posts_insert (hurl : Web.addressOf node.url = .ok url) :
    postsOf ((node.insert payload).said (Web.attend serve) desk) = [postFrom serve url payload desk] := by
  rw [insert_eq hurl]
  rfl

theorem value_insert (hurl : Web.addressOf node.url = .ok url) :
    ((node.insert payload).play (Web.attend serve) desk).value =
      Execution.verdict url (postFrom serve url payload desk).response := by
  rw [insert_eq hurl]
  rfl

theorem nextTicket_insert (hurl : Web.addressOf node.url = .ok url) :
    ((node.insert payload).play (Web.attend serve) desk).state.nextTicket =
      (desk.nextTicket + 1) % 2 ^ 64 := by
  rw [insert_eq hurl]
  rfl

theorem posts_insert_of_error (hurl : Web.addressOf node.url = .error failure) :
    postsOf ((node.insert payload).said (Web.attend serve) desk) = [] := by
  rw [insert_eq_of_error hurl]
  rfl

theorem value_insert_of_error (hurl : Web.addressOf node.url = .error failure) :
    ((node.insert payload).play (Web.attend serve) desk).value = .error failure := by
  rw [insert_eq_of_error hurl]
  rfl

end Call

/-! ## Payloads one after another -/

/-- A payload that was handed over: the requests that were sent for it, one after another, and the outcome. -/
structure Submission where
  payload : Payload
  posts : List Post
  outcome : Outcome Bool

namespace Submission

/-- The payload was sent until the response settled the matter, or as often as the policy allows. -/
structure IsSettled (policy : RetryPolicy) (url : Url) (submission : Submission) : Prop where
  sent : 0 < submission.posts.length
  length_le : submission.posts.length ≤ max 1 policy.maxAttempts
  /-- Whenever a further request was sent, the response before it was worth it. -/
  again : ∀ earlier post later, submission.posts = earlier ++ post :: later → later ≠ [] →
    ∃ failure, Judged url post.response (.error failure) true
  /-- The last response has decided the outcome; if it was worth another attempt, none was left. -/
  stop : ∃ last again, submission.posts.getLast? = some last ∧ Judged url last.response submission.outcome again ∧
    (again = true → submission.posts.length = max 1 policy.maxAttempts)
  /-- The execution node is reported to have said yes or no exactly if it has, without an error beside it. -/
  answered : ∀ b, submission.outcome = .ok b ↔
    ∃ last response error, submission.posts.getLast? = some last ∧ last.response = some response ∧
      response.Holds (some (.bool b)) error ∧ IsAbsent error

/-- Every request carries the payload, under the number next to that of the request before it; `before` requests were
sent for other payloads. -/
def IsNumbered (url : Url) (before : Nat) (submission : Submission) : Prop :=
  ∀ earlier post later, submission.posts = earlier ++ post :: later →
    post.request = insertRequest url ((before + earlier.length + 1) % 2 ^ 64) submission.payload

end Submission

namespace Service

variable {σ : Type} {service : Service} {serve : Web.Serving σ} {url : Url} {payload : Payload}
  {desk : Web.Desk σ} {failure : Failure} {before : Nat}

/-- Hands over one payload. -/
def submit (service : Service) (serve : Web.Serving σ) (payload : Payload) (desk : Web.Desk σ) : Submission :=
  let work := service.answer (.insert payload)
  ⟨payload, postsOf (work.said (Web.attend serve) desk), (work.play (Web.attend serve) desk).value⟩

/-- What is left of the tickets and of the server when one payload has been handed over. -/
def deskAfter (service : Service) (serve : Web.Serving σ) (payload : Payload)
    (desk : Web.Desk σ) : Web.Desk σ :=
  ((service.answer (.insert payload)).play (Web.attend serve) desk).state

/-- Hands over payloads one after another. -/
def submissions (service : Service) (serve : Web.Serving σ) : List Payload → Web.Desk σ → List Submission
  | [], _ => []
  | payload :: later, desk =>
    service.submit serve payload desk :: service.submissions serve later (service.deskAfter serve payload desk)

/-- The states in which the attempts to hand over a payload find tickets and server. -/
def attemptsAt (service : Service) (serve : Web.Serving σ) (payload : Payload)
    (desk : Web.Desk σ) : List (Web.Desk σ) :=
  RetryPolicy.tries (service.execution.insert payload) (Web.attend serve) (service.policy.attempts - 1) desk

/-- The requests for a payload are those of the attempts. -/
theorem posts_eq_flatMap :
    (service.submit serve payload desk).posts = (service.attemptsAt serve payload desk).flatMap fun between =>
      postsOf ((service.execution.insert payload).said (Web.attend serve) between) := by
  have hsaid := RetryPolicy.said_retryWith service.policy (Nodes.Query.label (.insert payload))
    (service.execution.insert payload) (Web.attend serve) (service.policy.attempts - 1) desk
  show postsOf (Dialogue.said _ (RetryPolicy.retryWith _ _ _ _) desk) = _
  rw [hsaid]
  exact List.filterMap_flatMap

/-- The last attempt decides the outcome; if that was worth another attempt, none was left. -/
theorem exists_last_attempt (service : Service) (serve : Web.Serving σ) (payload : Payload)
    (desk : Web.Desk σ) :
    ∃ last, (service.attemptsAt serve payload desk).getLast? = some last ∧
      (service.submit serve payload desk).outcome =
        ((service.execution.insert payload).play (Web.attend serve) last).value ∧
      service.deskAfter serve payload desk =
        ((service.execution.insert payload).play (Web.attend serve) last).state ∧
      (RetryPolicy.isTransient (service.submit serve payload desk).outcome = true →
        (service.attemptsAt serve payload desk).length = max 1 service.policy.maxAttempts) := by
  obtain ⟨last, hlast, hvalue, hstate, hspent⟩ := RetryPolicy.tries_stop service.policy
    (Nodes.Query.label (.insert payload)) (service.execution.insert payload) (Web.attend serve)
    (service.policy.attempts - 1) desk
  refine ⟨last, hlast, hvalue, hstate, ?_⟩
  intro htransient
  rw [← RetryPolicy.attempts_pred_succ]
  apply hspent
  rw [← hvalue]
  exact htransient

theorem length_attemptsAt_le :
    (service.attemptsAt serve payload desk).length ≤ max 1 service.policy.maxAttempts := by
  rw [← RetryPolicy.attempts_pred_succ]
  exact RetryPolicy.length_tries_le _ _ _ _

/-- One request is sent in each attempt. -/
theorem posts_submit (hurl : Web.addressOf service.execution.url = .ok url) :
    (service.submit serve payload desk).posts =
      (service.attemptsAt serve payload desk).map (postFrom serve url payload) := by
  rw [posts_eq_flatMap, List.map_eq_flatMap]
  exact congrArg (List.flatMap · _) (funext fun between => posts_insert hurl)

/-- The last response decides the outcome. -/
theorem exists_last_submit (hurl : Web.addressOf service.execution.url = .ok url) :
    ∃ last, (service.submit serve payload desk).posts.getLast? = some last ∧
      (service.submit serve payload desk).outcome = Execution.verdict url last.response ∧
      (RetryPolicy.isTransient (service.submit serve payload desk).outcome = true →
        (service.submit serve payload desk).posts.length = max 1 service.policy.maxAttempts) := by
  obtain ⟨last, hlast, houtcome, _, hspent⟩ := service.exists_last_attempt serve payload desk
  rw [value_insert hurl] at houtcome
  rw [posts_submit hurl, List.getLast?_map, List.length_map, hlast]
  exact ⟨postFrom serve url payload last, rfl, houtcome, hspent⟩

/-- Every request belongs to an attempt. -/
theorem exists_attempt {earlier later : List Post} {post : Post}
    (hurl : Web.addressOf service.execution.url = .ok url)
    (h : (service.submit serve payload desk).posts = earlier ++ post :: later) :
    ∃ passed between rest, service.attemptsAt serve payload desk = passed ++ between :: rest ∧
      passed.length = earlier.length ∧ post = postFrom serve url payload between ∧ rest.length = later.length := by
  rw [posts_submit hurl] at h
  obtain ⟨passed, after, hattempts, rfl, hafter⟩ := List.map_eq_append_iff.mp h
  obtain ⟨between, rest, rfl, rfl, rfl⟩ := List.map_eq_cons_iff.mp hafter
  exact ⟨passed, between, rest, hattempts, (List.length_map _).symm, rfl, (List.length_map _).symm⟩

/-- Before a further attempt, the response was worth it. -/
theorem again_submit {earlier later : List Post} {post : Post}
    (hurl : Web.addressOf service.execution.url = .ok url)
    (h : (service.submit serve payload desk).posts = earlier ++ post :: later) (hlater : later ≠ []) :
    RetryPolicy.isTransient (Execution.verdict url post.response) = true := by
  obtain ⟨passed, between, rest, hattempts, _, rfl, hlength⟩ := exists_attempt hurl h
  have hrest : rest ≠ [] := by
    apply List.ne_nil_of_length_pos
    rw [hlength]
    exact List.length_pos_iff.mpr hlater
  have htransient := RetryPolicy.mem_tries_transient hattempts hrest
  rw [value_insert hurl] at htransient
  exact htransient

/-- **One payload is settled.** -/
theorem isSettled_submit (hurl : Web.addressOf service.execution.url = .ok url) :
    (service.submit serve payload desk).IsSettled service.policy url := by
  obtain ⟨last, hlast, houtcome, hspent⟩ := exists_last_submit hurl
  have hjudged := judged_verdict url last.response
  rw [← houtcome] at hjudged
  constructor
  · exact List.length_pos_of_mem (List.mem_of_getLast? hlast)
  · rw [posts_submit hurl, List.length_map]
    exact length_attemptsAt_le
  · intro earlier post later hsplit hlater
    have htransient := again_submit hurl hsplit hlater
    obtain ⟨failure, hfailure⟩ := RetryPolicy.exists_failure_of_isTransient htransient
    have hpost := judged_verdict url post.response
    rw [htransient, hfailure] at hpost
    exact ⟨failure, hpost⟩
  · exact ⟨last, _, hlast, hjudged, hspent⟩
  · intro b
    rw [hjudged.eq_ok_iff]
    constructor
    · rintro ⟨response, error, hresponse, hbody, herror⟩
      exact ⟨last, response, error, hlast, hresponse, hbody, herror⟩
    · rintro ⟨last', response, error, hlast', hresponse, hbody, herror⟩
      rw [hlast] at hlast'
      cases hlast'
      exact ⟨response, error, hresponse, hbody, herror⟩

/-! ## The numbers -/

/-- The desk gives out the tickets that come after a number of others. -/
theorem nextTicket_attemptsAt (hurl : Web.addressOf service.execution.url = .ok url)
    (hdesk : desk.nextTicket = (before + 1) % 2 ^ 64) {earlier later : List (Web.Desk σ)} {between : Web.Desk σ}
    (h : service.attemptsAt serve payload desk = earlier ++ between :: later) :
    between.nextTicket = (before + earlier.length + 1) % 2 ^ 64 := by
  have hstep : ∀ n (s : Web.Desk σ), s.nextTicket = (n + 1) % 2 ^ 64 →
      ((service.execution.insert payload).play (Web.attend serve) s).state.nextTicket = (n + 1 + 1) % 2 ^ 64 := by
    intro n s hs
    rw [nextTicket_insert hurl, hs, Nat.mod_add_mod]
  exact RetryPolicy.tries_inv hstep hdesk h

theorem isNumbered_submit (hurl : Web.addressOf service.execution.url = .ok url)
    (hdesk : desk.nextTicket = (before + 1) % 2 ^ 64) :
    (service.submit serve payload desk).IsNumbered url before := by
  intro earlier post later hsplit
  obtain ⟨passed, between, rest, hattempts, hlength, rfl, _⟩ := exists_attempt hurl hsplit
  have hticket := nextTicket_attemptsAt hurl hdesk hattempts
  rw [hlength] at hticket
  show insertRequest url between.nextTicket payload = _
  rw [hticket]
  rfl

/-- The numbers go on where the requests for one payload have left them. -/
theorem nextTicket_deskAfter (hurl : Web.addressOf service.execution.url = .ok url)
    (hdesk : desk.nextTicket = (before + 1) % 2 ^ 64) :
    (service.deskAfter serve payload desk).nextTicket =
      (before + (service.submit serve payload desk).posts.length + 1) % 2 ^ 64 := by
  obtain ⟨last, hlast, _, hafter, _⟩ := service.exists_last_attempt serve payload desk
  obtain ⟨passed, hsplit⟩ := List.getLast?_eq_some_iff.mp hlast
  have hticket := nextTicket_attemptsAt hurl hdesk hsplit
  have hlength : (service.attemptsAt serve payload desk).length = passed.length + 1 := by
    rw [hsplit, List.length_append, List.length_singleton]
  rw [hafter, nextTicket_insert hurl, hticket, Nat.mod_add_mod, posts_submit hurl, List.length_map, hlength]
  rfl

/-! ## All payloads -/

theorem submissions_of_addressOf {payloads : List Payload} {earlier later : List Submission}
    {submission : Submission} (hurl : Web.addressOf service.execution.url = .ok url)
    (hdesk : desk.nextTicket = (before + 1) % 2 ^ 64)
    (h : service.submissions serve payloads desk = earlier ++ submission :: later) :
    submission.IsSettled service.policy url ∧
      submission.IsNumbered url (before + (earlier.flatMap (·.posts)).length) := by
  induction payloads generalizing desk before earlier with
  | nil =>
    have hnil : [] = earlier ++ submission :: later := h
    simp at hnil
  | cons payload payloads ih =>
    cases earlier with
    | nil =>
      obtain ⟨rfl, _⟩ := List.cons.inj h
      exact ⟨isSettled_submit hurl, isNumbered_submit hurl hdesk⟩
    | cons first earlier =>
      obtain ⟨rfl, hrest⟩ := List.cons.inj h
      have hlater := ih (nextTicket_deskAfter hurl hdesk) hrest
      rw [List.flatMap_cons, List.length_append, ← Nat.add_assoc]
      exact hlater

/-- An address that no request can go to ends every call, and is not worth another attempt. -/
theorem isTransient_addressOf {text : String} (h : Web.addressOf text = .error failure) :
    ¬ RetryPolicy.isTransient (.error failure : Outcome Bool) = true := by
  unfold Web.addressOf at h
  split at h
  · cases h
    exact Bool.false_ne_true
  · split at h
    · cases h
    · cases h
      exact Bool.false_ne_true

theorem submit_of_addressOf_error (hurl : Web.addressOf service.execution.url = .error failure) :
    (service.submit serve payload desk).posts = [] ∧
      (service.submit serve payload desk).outcome = .error failure := by
  have hvalue : ((service.execution.insert payload).play (Web.attend serve) desk).value = .error failure :=
    value_insert_of_error hurl
  have hfinal : ¬ RetryPolicy.isTransient
      ((service.execution.insert payload).play (Web.attend serve) desk).value = true := by
    rw [hvalue]
    exact isTransient_addressOf hurl
  have hattempts : service.attemptsAt serve payload desk = [desk] := RetryPolicy.tries_of_not_transient hfinal
  obtain ⟨last, hlast, houtcome, _⟩ := service.exists_last_attempt serve payload desk
  rw [hattempts] at hlast
  obtain rfl := Option.some.inj hlast
  constructor
  · rw [posts_eq_flatMap, hattempts, List.flatMap_singleton]
    exact posts_insert_of_error hurl
  · exact houtcome.trans hvalue

theorem map_payload_submissions (service : Service) (serve : Web.Serving σ) (payloads : List Payload)
    (desk : Web.Desk σ) :
    (service.submissions serve payloads desk).map (·.payload) = payloads := by
  induction payloads generalizing desk with
  | nil => rfl
  | cons payload payloads ih => exact congrArg (payload :: ·) (ih _)

theorem submissions_of_addressOf_error {payloads : List Payload} {submission : Submission}
    (hurl : Web.addressOf service.execution.url = .error failure)
    (h : submission ∈ service.submissions serve payloads desk) :
    submission.posts = [] ∧ submission.outcome = .error failure := by
  induction payloads generalizing desk with
  | nil => cases h
  | cons payload payloads ih =>
    rcases List.mem_cons.mp h with rfl | hlater
    · exact submit_of_addressOf_error hurl
    · exact ih hlater

/-- **Every payload that is handed over is settled by its last response.** A service hands over any payloads, one after
another, to a server that responds as it likes. If a request can go to the address of the execution node, each
payload is sent until a response settles it or no attempt is left, and the numbers of the requests run from one
through all of them, modulo the size of a word. Otherwise nothing is sent. -/
theorem submissions_settled (service : Service) (serve : Web.Serving σ) (server : σ) (payloads : List Payload) :
    (service.submissions serve payloads (Web.Desk.start server)).map (·.payload) = payloads ∧
      ∀ earlier submission later,
        service.submissions serve payloads (Web.Desk.start server) = earlier ++ submission :: later →
        match Web.addressOf service.execution.url with
        | .ok url => submission.IsSettled service.policy url ∧
          submission.IsNumbered url (earlier.flatMap (·.posts)).length
        | .error failure => submission.posts = [] ∧ submission.outcome = .error failure := by
  refine ⟨map_payload_submissions _ _ _ _, ?_⟩
  intro earlier submission later hsplit
  cases hurl : Web.addressOf service.execution.url with
  | ok url =>
    have hstart : (Web.Desk.start server).nextTicket = (0 + 1) % 2 ^ 64 := rfl
    have h := submissions_of_addressOf hurl hstart hsplit
    rw [Nat.zero_add] at h
    exact h
  | error failure =>
    have hmem : submission ∈ service.submissions serve payloads (Web.Desk.start server) := by
      rw [hsplit]
      simp
    exact submissions_of_addressOf_error hurl hmem

/-- A service that makes a call three times at most. -/
def patient : Service where
  relay := ⟨EpochLength.standard, ⟨0, Span.ofSeconds 6⟩, Span.ofSeconds 10,
    (by decide : 0 < (Config.standard 0).pollInterval.nanos), .always⟩
  beacon := ⟨"http://[::1]:5052", EpochLength.standard, 1024⟩
  execution := ⟨"http://[::1]:8545"⟩
  policy := ⟨3, Span.ofSeconds 1, .linear⟩

/-- A server that responds as in a list, one response after another, and then no more. -/
def inTurn : Web.Serving (List (Option Web.Response))
  | _, [] => (none, [])
  | _, response :: rest => (response, rest)

/-- No response, then a server that is overloaded, then acceptance. -/
def wavering : List (Option Web.Response) :=
  [none, some ⟨503, none, [], true⟩, some ⟨200, none, ["\x7b\"result\":true\x7d".toUTF8.toList], true⟩]

/-- The payloads of two epochs, with one key in both of them. -/
def twoEpochs : List Payload := [⟨2, ["0xab", "0x05"], 384⟩, ⟨3, ["0xab"], 576⟩]

/-- The first payload is accepted in the third attempt, and the second one is given up after three more. So the second
one begins with number four. -/
theorem submissions_settled_wavering :
    ∃ first second,
      patient.submissions inTurn twoEpochs (Web.Desk.start wavering) = [first, second] ∧
      first.outcome.toOption = some true ∧ first.posts.length = 3 ∧ second.posts.length = 3 ∧
      first.posts.head?.bind (·.request.body) = some ("\x7b\"jsonrpc\":\"2.0\",\"id\":1," ++
        "\"method\":\"eth_insertMinimalConsensusInfo\",\"params\":[2,[\"0xab\",\"0x05\"],384]\x7d") ∧
      second.posts.head?.bind (·.request.body) = some ("\x7b\"jsonrpc\":\"2.0\",\"id\":4," ++
        "\"method\":\"eth_insertMinimalConsensusInfo\",\"params\":[3,[\"0xab\"],576]\x7d") ∧
      ∃ url, Web.addressOf patient.execution.url = .ok url ∧
        first.IsSettled patient.policy url ∧ first.IsNumbered url 0 ∧
        second.IsSettled patient.policy url ∧ second.IsNumbered url 3 := by
  obtain ⟨url, hurl⟩ : ∃ url, Web.addressOf patient.execution.url = .ok url :=
    fault?_eq_none_iff.mp (by decide +kernel)
  obtain ⟨_, hall⟩ := submissions_settled patient inTurn wavering twoEpochs
  rw [hurl] at hall
  obtain ⟨hsettled, hnumbered⟩ := hall [] _ [_] rfl
  obtain ⟨hsettled', hnumbered'⟩ := hall [_] _ [] rfl
  refine ⟨_, _, rfl, ?_, ?_, ?_, ?_, ?_, url, hurl, hsettled, hnumbered, hsettled', ?_⟩
  · decide +kernel
  · decide +kernel
  · decide +kernel
  · decide +kernel
  · decide +kernel
  · have hthree : (List.flatMap (·.posts)
        [patient.submit inTurn ⟨2, ["0xab", "0x05"], 384⟩ (Web.Desk.start wavering)]).length = 3 := by
      decide +kernel
    rw [hthree] at hnumbered'
    exact hnumbered'

end Service

end DutyRelay
