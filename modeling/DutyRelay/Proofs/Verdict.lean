import DutyRelay.Execution
import DutyRelay.Proofs.Retrying

/-!
# What a response to a payload comes to

A payload is sent as a JSON-RPC call, and four things decide together what the response comes to: whether there is
one, its status, the two members of its body, and, if one of them is an error, its code. `Judged` lists the cases
beside each other, in terms of the body as a document, each with the outcome and with whether another attempt is
worth making. Every response falls under exactly one of them.

## Contents
- `IsAbsent`, `Web.Response.Holds`: the members of the body of a response.
- `Judged`: the cases.
- `Execution.verdict`: what a call makes of a response, with one lemma for each case.
- `Judged.eq_verdict`, `Judged.eq_ok_iff`, `judged_verdict`: exactly one case applies, and it is what a call makes
  of the response.
-/

namespace DutyRelay

open Json (Document Value)

/-! ## Members of a body -/

/-- The member is not there, or is null. -/
def IsAbsent (member : Option Document) : Prop := member = none ∨ member = some .null

/-- The response reports success and has, in a body that can be read in full, these two members. -/
structure Web.Response.Holds (response : Web.Response) (result error : Option Document) : Prop where
  success : Web.isSuccess response.status = true
  complete : response.isComplete = true
  members : (Document.ofBytes? response.chunks.flatten).bind (Document.record? ["result", "error"]) =
    some [result, error]
  readable : (RpcReply.ofBytes? response.chunks.flatten).isSome = true

/-- A member is read as nothing exactly if it is absent. -/
theorem optional?_eq_some_none_iff {α : Type} {read : Document → Option α} {member : Option Document} :
    Document.optional? read member = some none ↔ IsAbsent member := by
  unfold IsAbsent
  cases member with
  | none => simp [Document.optional?]
  | some document => cases document <;> simp [Document.optional?]

theorem optional?_of_ne_null {α : Type} {read : Document → Option α} {document : Document}
    (hnull : document ≠ .null) : Document.optional? read (some document) = (read document).map some := by
  cases document with
  | null => exact absurd rfl hnull
  | _ => rfl

theorem optional?_eq_some_some {α : Type} {read : Document → Option α} {member : Option Document} {value : α}
    (h : Document.optional? read member = some (some value)) :
    ∃ document, member = some document ∧ read document = some value := by
  have hpresent : ¬ IsAbsent member := by
    intro habsent
    rw [optional?_eq_some_none_iff.mpr habsent] at h
    cases h
  cases member with
  | none => exact absurd (Or.inl rfl) hpresent
  | some document =>
    have hnull : document ≠ .null := fun hnull => hpresent (Or.inr (congrArg some hnull))
    rw [optional?_of_ne_null hnull] at h
    obtain ⟨value', hvalue, hsome⟩ := Option.map_eq_some_iff.mp h
    exact ⟨document, rfl, hvalue.trans hsome⟩

/-- Only a truth value is read as one. -/
theorem ofDocument?_eq_bool_iff {depth : Nat} {document : Document} {b : Bool} :
    Value.ofDocument? depth document = some (.bool b) ↔ document = .bool b := by
  cases document with
  | null => simp [Value.ofDocument?]
  | bool value => simp [Value.ofDocument?]
  | number numeral =>
    simp only [Value.ofDocument?, Value.ofNumeral?]
    split
    · split
      · simp
      · split <;> simp
    · split <;> simp
  | string pieces => simp [Value.ofDocument?]
  | array items => simp [Value.ofDocument?]
  | object fields => simp [Value.ofDocument?, Value.ofFields]

/-- A body that can be read in full has the two members. -/
theorem exists_members {bytes : List UInt8} {reply : RpcReply} (h : RpcReply.ofBytes? bytes = some reply) :
    ∃ result error,
      (Document.ofBytes? bytes).bind (Document.record? ["result", "error"]) = some [result, error] ∧
      Document.optional? (Value.ofDocument? (Value.depthLimit - 1)) result = some reply.result ∧
      Document.optional? rpcError? error = some reply.error := by
  obtain ⟨document, hdocument, hreply⟩ := Option.bind_eq_some_iff.mp h
  unfold RpcReply.ofDocument? at hreply
  split at hreply
  · next result error hmembers =>
    obtain ⟨result', hresult, hrest⟩ := Option.bind_eq_some_iff.mp hreply
    obtain ⟨error', herror, hpure⟩ := Option.bind_eq_some_iff.mp hrest
    obtain rfl := Option.some.inj hpure
    refine ⟨result, error, ?_, hresult, herror⟩
    rw [hdocument]
    exact hmembers
  · cases hreply

/-- How the members are read. -/
theorem Web.Response.Holds.exists_reply {response : Web.Response} {result error : Option Document}
    (h : response.Holds result error) :
    ∃ reply, RpcReply.ofBytes? response.chunks.flatten = some reply ∧
      Document.optional? (Value.ofDocument? (Value.depthLimit - 1)) result = some reply.result ∧
      Document.optional? rpcError? error = some reply.error := by
  obtain ⟨reply, hreply⟩ := Option.isSome_iff_exists.mp h.readable
  obtain ⟨result', error', hmembers, hresult, herror⟩ := exists_members hreply
  have hsame : some [result, error] = some [result', error'] := h.members.symm.trans hmembers
  obtain ⟨rfl, htail⟩ := List.cons.inj (Option.some.inj hsame)
  obtain ⟨rfl, _⟩ := List.cons.inj htail
  exact ⟨reply, hreply, hresult, herror⟩

/-! ## The cases -/

/-- What a response to a payload comes to, and whether another attempt is worth making. -/
inductive Judged (url : Url) : Option Web.Response → Outcome Bool → (again : Bool) → Prop
  /-- There is no response. -/
  | unanswered : Judged url none (.error (.http (.unanswered url.text))) true
  /-- The status reports no success; then the body makes no difference. -/
  | refused {response : Web.Response} (hstatus : ¬ Web.isSuccess response.status = true) :
    Judged url (some response) (.error (.unavailable
      s!"execution node ({insertMethod} returned {Web.statusText response.status})")) true
  /-- The body cannot be read as an answer to a call. -/
  | unreadable {response : Web.Response} (hstatus : Web.isSuccess response.status = true)
    (hbody : ∀ result error, ¬ response.Holds result error) :
    Judged url (some response) (.error (.http (.badBody url.text))) false
  /-- There is an error; then the result makes no difference. Four codes say that the call itself is at fault. -/
  | rpc {response : Web.Response} {result : Option Document} {error : Document} {code : Int} {text : String}
    (hbody : response.Holds result (some error)) (herror : rpcError? error = some (code, text)) :
    Judged url (some response) (.error (.rpc code text))
      (decide (code ∉ [-32700, -32600, -32601, -32602]))
  /-- There is neither an error nor a result. -/
  | noResult {response : Web.Response} {result error : Option Document} (hbody : response.Holds result error)
    (herror : IsAbsent error) (hresult : IsAbsent result) :
    Judged url (some response) (.error (.decode s!"{insertMethod}: response has no result")) false
  /-- There is no error, and a result that is no truth value. -/
  | misfit {response : Web.Response} {result : Document} {error : Option Document}
    (hbody : response.Holds (some result) error) (herror : IsAbsent error) (hnull : result ≠ .null)
    (hbool : ∀ b, result ≠ .bool b) :
    Judged url (some response) (.error (.decode s!"{insertMethod}: {Web.jsonRemark}")) false
  /-- There is no error, and a result that is a truth value. -/
  | answered {response : Web.Response} {error : Option Document} {b : Bool}
    (hbody : response.Holds (some (.bool b)) error) (herror : IsAbsent error) :
    Judged url (some response) (.ok b) false

/-! ## What a call makes of a response -/

/-- The outcome of a call that hands over a payload, by the response to it. -/
def Execution.verdict (url : Url) : Option Web.Response → Outcome Bool
  | none => .error (.http (.unanswered url.text))
  | some response => digest insertMethod url Value.bool? response

variable {url : Url} {response : Web.Response} {result error : Option Document}

theorem verdict_of_refused (hstatus : ¬ Web.isSuccess response.status = true) :
    Execution.verdict url (some response) = .error (.unavailable
      s!"execution node ({insertMethod} returned {Web.statusText response.status})") := by
  show Execution.digest insertMethod url Value.bool? response = _
  unfold Execution.digest
  rw [if_pos hstatus]

theorem verdict_of_unreadable (hstatus : Web.isSuccess response.status = true)
    (hbody : ∀ result error, ¬ response.Holds result error) :
    Execution.verdict url (some response) = .error (.http (.badBody url.text)) := by
  show Execution.digest insertMethod url Value.bool? response = _
  unfold Execution.digest
  rw [if_neg (not_not_intro hstatus)]
  by_cases hcomplete : response.isComplete = true
  · rw [if_neg (not_not_intro hcomplete)]
    cases hreply : RpcReply.ofBytes? response.chunks.flatten with
    | none => rfl
    | some reply =>
      obtain ⟨result, error, hmembers, _⟩ := exists_members hreply
      have hreadable : (RpcReply.ofBytes? response.chunks.flatten).isSome = true := by
        rw [hreply]
        rfl
      exact absurd ⟨hstatus, hcomplete, hmembers, hreadable⟩ (hbody result error)
  · rw [if_pos hcomplete]

/-- If the body can be read, the members decide. -/
theorem verdict_of_holds (url : Url) (hbody : response.Holds result error) :
    ∃ reply : RpcReply, Execution.verdict url (some response) = reply.outcome insertMethod Value.bool? ∧
      Document.optional? (Value.ofDocument? (Value.depthLimit - 1)) result = some reply.result ∧
      Document.optional? rpcError? error = some reply.error := by
  obtain ⟨reply, hreply, hresult, herror⟩ := hbody.exists_reply
  refine ⟨reply, ?_, hresult, herror⟩
  show Execution.digest insertMethod url Value.bool? response = _
  unfold Execution.digest
  rw [if_neg (not_not_intro hbody.success), if_neg (not_not_intro hbody.complete), hreply]

theorem verdict_of_rpc {error : Document} {code : Int} {text : String}
    (hbody : response.Holds result (some error)) (herror : rpcError? error = some (code, text)) :
    Execution.verdict url (some response) = .error (.rpc code text) := by
  obtain ⟨reply, hverdict, _, hread⟩ := verdict_of_holds url hbody
  have hnull : error ≠ .null := by
    rintro rfl
    cases herror
  rw [optional?_of_ne_null hnull, herror] at hread
  have hfault : reply.error = some (code, text) := (Option.some.inj hread).symm
  rw [hverdict]
  unfold RpcReply.outcome
  rw [hfault]

theorem verdict_of_noResult (hbody : response.Holds result error) (herror : IsAbsent error)
    (hresult : IsAbsent result) :
    Execution.verdict url (some response) =
      .error (.decode s!"{insertMethod}: response has no result") := by
  obtain ⟨reply, hverdict, hvalue, hread⟩ := verdict_of_holds url hbody
  rw [optional?_eq_some_none_iff.mpr herror] at hread
  rw [optional?_eq_some_none_iff.mpr hresult] at hvalue
  rw [hverdict]
  unfold RpcReply.outcome
  rw [← Option.some.inj hread, ← Option.some.inj hvalue]

/-- With a result and no error, the outcome is the result if that is a truth value. -/
theorem verdict_of_result {result : Document} (url : Url) (hbody : response.Holds (some result) error)
    (herror : IsAbsent error) (hnull : result ≠ .null) :
    ∃ value, Value.ofDocument? (Value.depthLimit - 1) result = some value ∧
      Execution.verdict url (some response) =
        match value.bool? with
        | some b => .ok b
        | none => .error (.decode s!"{insertMethod}: {Web.jsonRemark}") := by
  obtain ⟨reply, hverdict, hvalue, hread⟩ := verdict_of_holds url hbody
  rw [optional?_eq_some_none_iff.mpr herror] at hread
  rw [optional?_of_ne_null hnull] at hvalue
  obtain ⟨value, hdocument, hsome⟩ := Option.map_eq_some_iff.mp hvalue
  refine ⟨value, hdocument, ?_⟩
  rw [hverdict]
  unfold RpcReply.outcome
  rw [← Option.some.inj hread, ← hsome]
  cases hbool : value.bool? <;> simp [hbool]

theorem verdict_of_misfit {result : Document} (hbody : response.Holds (some result) error)
    (herror : IsAbsent error) (hnull : result ≠ .null) (hbool : ∀ b, result ≠ .bool b) :
    Execution.verdict url (some response) =
      .error (.decode s!"{insertMethod}: {Web.jsonRemark}") := by
  obtain ⟨value, hvalue, hverdict⟩ := verdict_of_result url hbody herror hnull
  have hnone : value.bool? = none := by
    cases value with
    | bool b => exact absurd (ofDocument?_eq_bool_iff.mp hvalue) (hbool b)
    | _ => rfl
  rw [hverdict, hnone]

theorem verdict_of_answered {b : Bool} (hbody : response.Holds (some (.bool b)) error)
    (herror : IsAbsent error) : Execution.verdict url (some response) = .ok b := by
  obtain ⟨value, hvalue, hverdict⟩ := verdict_of_result url hbody herror nofun
  have hsame : value = .bool b :=
    Option.some.inj (hvalue.symm.trans (ofDocument?_eq_bool_iff.mpr rfl))
  rw [hverdict, hsame]
  rfl

/-! ## Exactly one case -/

/-- An error of the execution node is worth another attempt unless its code says that the call is at fault. -/
theorem isTransient_rpc {code : Int} {text : String} :
    RetryPolicy.isTransient (.error (.rpc code text) : Outcome Bool) =
      decide (code ∉ [-32700, -32600, -32601, -32602]) := by
  show Kind.isRetryable (if code ∈ Failure.requestFaultCodes then .malformed else .transient) = _
  by_cases hfault : code ∈ Failure.requestFaultCodes
  · rw [if_pos hfault]
    exact (decide_eq_false (not_not_intro hfault)).symm
  · rw [if_neg hfault]
    exact (decide_eq_true hfault).symm

/-- **The cases exclude each other**: a response has no other outcome than the one that a call makes of it. -/
theorem Judged.eq_verdict {response : Option Web.Response} {outcome : Outcome Bool} {again : Bool}
    (h : Judged url response outcome again) :
    outcome = Execution.verdict url response ∧ again = RetryPolicy.isTransient outcome := by
  cases h with
  | unanswered => exact ⟨rfl, rfl⟩
  | refused hstatus => exact ⟨(verdict_of_refused hstatus).symm, rfl⟩
  | unreadable hstatus hbody => exact ⟨(verdict_of_unreadable hstatus hbody).symm, rfl⟩
  | rpc hbody herror => exact ⟨(verdict_of_rpc hbody herror).symm, isTransient_rpc.symm⟩
  | noResult hbody herror hresult => exact ⟨(verdict_of_noResult hbody herror hresult).symm, rfl⟩
  | misfit hbody herror hnull hbool => exact ⟨(verdict_of_misfit hbody herror hnull hbool).symm, rfl⟩
  | answered hbody herror => exact ⟨(verdict_of_answered hbody herror).symm, rfl⟩

/-- A truth value comes out exactly if it is the result, without an error beside it. -/
theorem Judged.eq_ok_iff {response : Option Web.Response} {outcome : Outcome Bool} {again b : Bool}
    (h : Judged url response outcome again) :
    outcome = .ok b ↔
      ∃ held error, response = some held ∧ held.Holds (some (.bool b)) error ∧ IsAbsent error := by
  constructor
  · rintro rfl
    cases h with
    | answered hbody herror => exact ⟨_, _, rfl, hbody, herror⟩
  · rintro ⟨held, error, rfl, hbody, herror⟩
    have hanswered : Judged url (some held) (.ok b) false := .answered hbody herror
    exact h.eq_verdict.1.trans hanswered.eq_verdict.1.symm

/-- A body that can be read falls under one of the last four cases. -/
theorem exists_judged_of_holds (url : Url) (hbody : response.Holds result error) :
    ∃ outcome again, Judged url (some response) outcome again := by
  obtain ⟨reply, _, _, hread⟩ := hbody.exists_reply
  cases hfault : reply.error with
  | some fault =>
    rw [hfault] at hread
    obtain ⟨document, rfl, hdocument⟩ := optional?_eq_some_some hread
    exact ⟨_, _, .rpc hbody hdocument⟩
  | none =>
    rw [hfault] at hread
    have herror : IsAbsent error := optional?_eq_some_none_iff.mp hread
    cases result with
    | none => exact ⟨_, _, .noResult hbody herror (Or.inl rfl)⟩
    | some document =>
      cases document with
      | null => exact ⟨_, _, .noResult hbody herror (Or.inr rfl)⟩
      | bool b => exact ⟨_, _, .answered hbody herror⟩
      | _ => exact ⟨_, _, .misfit hbody herror nofun nofun⟩

/-- **Every response falls under one of the cases**, with the outcome that a call makes of it. -/
theorem judged_verdict (url : Url) (response : Option Web.Response) :
    Judged url response (Execution.verdict url response)
      (RetryPolicy.isTransient (Execution.verdict url response)) := by
  have hjudged : ∃ outcome again, Judged url response outcome again := by
    cases response with
    | none => exact ⟨_, _, .unanswered⟩
    | some response =>
      by_cases hstatus : Web.isSuccess response.status = true
      · by_cases hbody : ∃ result error, response.Holds result error
        · obtain ⟨result, error, hholds⟩ := hbody
          exact exists_judged_of_holds url hholds
        · have hnone : ∀ result error, ¬ response.Holds result error :=
            fun result error hholds => hbody ⟨result, error, hholds⟩
          exact ⟨_, _, .unreadable hstatus hnone⟩
      · exact ⟨_, _, .refused hstatus⟩
  obtain ⟨outcome, again, h⟩ := hjudged
  obtain ⟨rfl, rfl⟩ := h.eq_verdict
  exact h

end DutyRelay
