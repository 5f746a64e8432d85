import DutyRelay.Proofs.Submission
import DutyRelay.Proofs.Writing

/-!
# Bodies of requests

A payload is posted as a JSON text under the number of a ticket. Whoever reads the text gets the number, the epoch, the
keys and the start as they were: integers up to the largest word digit for digit, and the keys in their order with all
their characters. So no two payloads have one body, and neither have two numbers.

## Contents
- `insertBody`: the body that is posted for a payload under a number.
- `exists_ticket_of_insert`: what a call posts.
- `ofBytes?_insertBody`: what is read from the body; `insertBody_inj`: no two payloads have one.
- `insert_body_faithful`: all of this together; `awkward`: keys that have to be escaped.
-/

namespace DutyRelay

open Json (Value)
open Hex (utf8)

variable {node : Execution} {payload : Payload} {talk : List (Exchange Web)} {outcome : Outcome Bool}
  {id epoch start : Nat} {keys : List String}

/-- The body that is posted for a payload under a number. -/
def insertBody (id : Nat) (payload : Payload) : String := (rpcRequest id insertMethod (insertParams payload)).text

/-! ## What is posted -/

/-- A call takes a ticket, and posts the payload under its number if the node has an address. -/
theorem exists_ticket_of_insert (h : (node.insert payload).Leads talk outcome) :
    ∃ (id : Nat) (later : List (Exchange Web)), talk = ⟨.ticket, id⟩ :: later ∧
      (∀ url, Web.addressOf node.url = .ok url →
        ∃ response, postsOf talk = [⟨insertRequest url id payload, response⟩]) ∧
      ∀ failure, Web.addressOf node.url = .error failure → postsOf talk = [] := by
  cases hurl : Web.addressOf node.url with
  | ok url =>
    rw [insert_eq hurl] at h
    obtain ⟨id, later, rfl, hnoted⟩ := Dialogue.leads_asking_iff.mp h
    obtain ⟨response, rest, rfl, hdone⟩ := Dialogue.leads_asking_iff.mp (Dialogue.leads_noting_iff.mp hnoted)
    obtain ⟨rfl, -⟩ := Dialogue.leads_done_iff.mp hdone
    refine ⟨id, _, rfl, ?_, nofun⟩
    rintro _ ⟨⟩
    exact ⟨response, rfl⟩
  | error failure =>
    rw [insert_eq_of_error hurl] at h
    obtain ⟨id, later, rfl, hnoted⟩ := Dialogue.leads_asking_iff.mp h
    obtain ⟨rfl, -⟩ := Dialogue.leads_done_iff.mp (Dialogue.leads_noting_iff.mp hnoted)
    exact ⟨id, [], rfl, nofun, fun _ _ => rfl⟩

/-! ## What is read -/

theorem fits_word {depth n : Nat} (h : n ≤ Word.top) : Value.Fits depth (.integer n) := by
  refine .integer ⟨?_, Int.ofNat_le.mpr h⟩
  have hnonneg : (0 : Int) ≤ n := Int.natCast_nonneg n
  omega

/-- The fields of a call in the order of their names. -/
theorem ofFields_call (id : Nat) (method : String) (params : Value) :
    Value.ofFields [("jsonrpc", .string "2.0"), ("id", .integer id), ("method", .string method), ("params", params)] =
      .object [("id", .integer id), ("jsonrpc", .string "2.0"), ("method", .string method), ("params", params)] := by
  simp +decide only [Value.ofFields, Value.insertField, List.foldl_cons, List.foldl_nil, if_true, if_false]

/-- **A call is read as it was made**, whatever its method and its parameters are. -/
theorem ofBytes?_rpcRequest {method : String} {params : Value} (hid : id ≤ Word.top)
    (hparams : params.Fits (Value.depthLimit - 1)) :
    Value.ofBytes? (utf8 (rpcRequest id method params).text.toList) = some (.object [("id", .integer id),
      ("jsonrpc", .string "2.0"), ("method", .string method), ("params", params)]) := by
  rw [← ofFields_call]
  unfold Value.text
  rw [String.toList_ofList]
  refine Json.ReadsAs.ofBytes?_eq (Json.readsAs_object fun field hfield => Json.readsAs_of_fits ?_)
  simp only [List.mem_cons, List.not_mem_nil, or_false] at hfield
  rcases hfield with rfl | rfl | rfl | rfl
  · exact .string _
  · exact fits_word hid
  · exact .string _
  · exact hparams

/-- The parameters are within the limits of what is read. -/
theorem fits_insertParams {depth : Nat} (hepoch : payload.epoch ≤ Word.top) (hstart : payload.start ≤ Word.top) :
    (insertParams payload).Fits (depth + 2) := by
  have hkeys : ∀ item ∈ payload.keys.map Value.string, item.Fits depth := by
    intro item hitem
    obtain ⟨key, -, rfl⟩ := List.mem_map.mp hitem
    exact .string key
  refine .array fun item hitem => ?_
  simp only [List.mem_cons, List.not_mem_nil, or_false] at hitem
  rcases hitem with rfl | rfl | rfl
  · exact fits_word hepoch
  · exact .array hkeys
  · exact fits_word hstart

/-- The call for a payload, with its fields in the order of their names. -/
theorem ofBytes?_insertBody (hid : id ≤ Word.top) (hepoch : epoch ≤ Word.top) (hstart : start ≤ Word.top) :
    Value.ofBytes? (utf8 (insertBody id ⟨epoch, keys, start⟩).toList) = some (.object [
      ("id", .integer id),
      ("jsonrpc", .string "2.0"),
      ("method", .string "eth_insertMinimalConsensusInfo"),
      ("params", .array [.integer epoch, .array (keys.map .string), .integer start])]) :=
  ofBytes?_rpcRequest hid (fits_insertParams hepoch hstart)

/-- The text itself, with a quotation mark and a line end in a key. -/
example : insertBody 3 ⟨0, ["0x", "\"\n"], 1600000000⟩ =
    "\x7b\"jsonrpc\":\"2.0\",\"id\":3,\"method\":\"eth_insertMinimalConsensusInfo\"," ++
      "\"params\":[0,[\"0x\",\"\x5c\"\x5cn\"],1600000000]\x7d" := by
  decide +kernel

/-- **No two payloads have one body**, and neither have two numbers. -/
theorem insertBody_inj {id' : Nat} {payload' : Payload} (hid : id ≤ Word.top) (hid' : id' ≤ Word.top)
    (hepoch : payload.epoch ≤ Word.top) (hepoch' : payload'.epoch ≤ Word.top) (hstart : payload.start ≤ Word.top)
    (hstart' : payload'.start ≤ Word.top) (h : insertBody id payload = insertBody id' payload') :
    id = id' ∧ payload = payload' := by
  obtain ⟨epoch, keys, start⟩ := payload
  obtain ⟨epoch', keys', start'⟩ := payload'
  have hread := @ofBytes?_insertBody id epoch start keys hid hepoch hstart
  rw [h, ofBytes?_insertBody hid' hepoch' hstart'] at hread
  have hstring : Function.Injective Value.string := fun _ _ => Value.string.inj
  simp only [Option.some.injEq, Value.object.injEq, List.cons.injEq, Prod.mk.injEq, Value.integer.injEq,
    Value.array.injEq, Int.natCast_inj, true_and, and_true] at hread
  obtain ⟨rfl, rfl, hkeys, rfl⟩ := hread
  obtain rfl := List.map_injective_iff.mpr hstring hkeys
  exact ⟨rfl, rfl⟩

/-- **The body of a request is faithful.** What a call posts is the body for its payload under the number of the ticket;
it is read as that call, with the same integers and the same keys in the same order; and different numbers, epochs, keys
or starts have different bodies. -/
theorem insert_body_faithful :
    (∀ node payload talk outcome, (Execution.insert node payload).Leads talk outcome →
      ∃ (id : Nat) (later : List (Exchange Web)), talk = ⟨.ticket, id⟩ :: later ∧
        (∀ url, Web.addressOf node.url = .ok url → postsOf talk ≠ []) ∧
        ∀ post ∈ postsOf talk, post.request.method = .post ∧ post.request.body = some (insertBody id payload)) ∧
    (∀ id epoch start keys, id ≤ Word.top → epoch ≤ Word.top → start ≤ Word.top →
      Value.ofBytes? (utf8 (insertBody id ⟨epoch, keys, start⟩).toList) = some (.object [
        ("id", .integer id),
        ("jsonrpc", .string "2.0"),
        ("method", .string "eth_insertMinimalConsensusInfo"),
        ("params", .array [.integer epoch, .array (keys.map .string), .integer start])])) ∧
    ∀ id id' payload payload', id ≤ Word.top → id' ≤ Word.top → payload.epoch ≤ Word.top →
      payload'.epoch ≤ Word.top → payload.start ≤ Word.top → payload'.start ≤ Word.top →
      insertBody id payload = insertBody id' payload' → id = id' ∧ payload = payload' := by
  refine ⟨?_, fun _ _ _ _ => ofBytes?_insertBody, fun _ _ _ _ => insertBody_inj⟩
  intro node payload talk outcome h
  obtain ⟨id, later, htalk, hsent, hunsent⟩ := exists_ticket_of_insert h
  refine ⟨id, later, htalk, ?_, ?_⟩
  · intro url hurl
    obtain ⟨response, hposts⟩ := hsent url hurl
    rw [hposts]
    exact List.cons_ne_nil _ _
  · intro post hpost
    cases hurl : Web.addressOf node.url with
    | ok url =>
      obtain ⟨response, hposts⟩ := hsent url hurl
      rw [hposts] at hpost
      obtain rfl := List.mem_singleton.mp hpost
      exact ⟨rfl, rfl⟩
    | error failure =>
      rw [hunsent failure hurl] at hpost
      cases hpost

/-- A payload whose integers no double precision number is equal to, with keys that have to be escaped. -/
def awkward : Payload := ⟨2 ^ 53 + 1, ["0x", "", "\"\x5c\n\x01", "é😀"], Word.top⟩

/-- It is posted, and read as it is, under the largest number there is; and its body is not that of the epoch before. -/
theorem insert_body_faithful_awkward :
    (∃ talk outcome, (Execution.insert ⟨"http://[::1]:8545"⟩ awkward).Leads talk outcome ∧
      ∃ post ∈ postsOf talk, post.request.body = some (insertBody 7 awkward)) ∧
    (Word.top ≤ Word.top ∧ awkward.epoch ≤ Word.top ∧ awkward.start ≤ Word.top) ∧
    Value.ofBytes? (utf8 (insertBody Word.top awkward).toList) = some (.object [
      ("id", .integer 18446744073709551615),
      ("jsonrpc", .string "2.0"),
      ("method", .string "eth_insertMinimalConsensusInfo"),
      ("params", .array [.integer 9007199254740993,
        .array [.string "0x", .string "", .string "\"\x5c\n\x01", .string "é😀"],
        .integer 18446744073709551615])]) ∧
    insertBody Word.top awkward ≠ insertBody Word.top { awkward with epoch := 2 ^ 53 } := by
  obtain ⟨hposted, hread, hinj⟩ := insert_body_faithful
  have htop : Word.top ≤ Word.top := le_rfl
  have hepoch : awkward.epoch ≤ Word.top := by decide
  refine ⟨?_, ⟨htop, hepoch, htop⟩, hread _ _ _ _ htop hepoch htop, ?_⟩
  · obtain ⟨url, hurl⟩ : ∃ url, Web.addressOf "http://[::1]:8545" = .ok url :=
      fault?_eq_none_iff.mp (by decide +kernel)
    -- The seventh ticket, and no response.
    have htalk : (Execution.insert ⟨"http://[::1]:8545"⟩ awkward).Leads
        [⟨.ticket, (7 : Nat)⟩, ⟨.send (insertRequest url 7 awkward), none⟩] (Execution.verdict url none) := by
      rw [insert_eq hurl]
      exact .asking (.noting (.asking .done))
    obtain ⟨id, later, heq, hsent, hbody⟩ := hposted _ _ _ _ htalk
    obtain ⟨post, hpost⟩ := List.exists_mem_of_ne_nil _ (hsent url hurl)
    cases heq
    exact ⟨_, _, htalk, post, hpost, (hbody post hpost).2⟩
  · intro hsame
    have hpayload := (hinj _ _ _ _ htop htop hepoch (by decide) htop htop hsame).2
    exact absurd hpayload (by decide)

end DutyRelay
