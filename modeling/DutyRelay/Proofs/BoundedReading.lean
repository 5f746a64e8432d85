import DutyRelay.Beacon
import DutyRelay.Proofs.Exchange
import DutyRelay.Proofs.Window

/-!
# Reading a response up to a limit

The beacon node may send a body of any length, in chunks of any size, and nothing beyond a limit is to be kept. The
limit is looked at twice: a declared length beyond it ends the matter before anything is read, and while chunks are
read, the first one that would take the body beyond it is the last one that is looked at. Here the reading is taken
apart into its turns, so that it can be said what the buffer holds at any time and which chunks are never taken. It
makes no difference how a body is cut into chunks, except for the size that is reported when it is too long.

## Contents
- `Web.takeChunk_eq_ok_iff`, `Web.takeChunk_eq_error_iff`: what comes of one chunk.
- `Web.Reading`, `Reading.Turn`, `Reading.Turns`, `Reading.Ends`: one chunk after another.
- `Turns.within`, `Turns.exists_taken`: what every turn preserves.
- `Turns.outcome_eq`, `exists_ends`, `collect_iff`: the turns are those of `Web.collect`.
- `collect_of_within`, `Web.Crossing`, `exists_crossing`: what it comes to.
- `Beacon.decoded`, `Beacon.digest_of_admits`: a response in full.
- `Beacon.IsBounded`, `fetch_bounded`: what asking the beacon node comes to; `sevenAndBlanks`: an answer that goes on.
-/

namespace DutyRelay

open Json (Document)

namespace Web

/-! ## One chunk after another -/

variable {limit size : Nat} {buffer filled chunk : List UInt8} {failure : Failure}

theorem checkSize_of_le (h : size ≤ limit) : checkSize size limit = .ok () := if_neg (Nat.not_lt_of_le h)

theorem checkSize_of_lt (h : limit < size) : checkSize size limit = .error (.responseTooLarge size limit) := if_pos h

/-- A chunk that fits goes to the end of the buffer, -/
theorem takeChunk_of_fits (h : buffer.length + chunk.length ≤ limit) :
    takeChunk limit buffer chunk = .ok (buffer ++ chunk) := by
  unfold takeChunk
  rw [checkSize_of_le h]
  rfl

/-- and one that does not fit is reported with the bytes up to its end. -/
theorem takeChunk_of_beyond (h : limit < buffer.length + chunk.length) :
    takeChunk limit buffer chunk = .error (.responseTooLarge (buffer.length + chunk.length) limit) := by
  unfold takeChunk
  rw [checkSize_of_lt h]
  rfl

theorem takeChunk_eq_ok_iff :
    takeChunk limit buffer chunk = .ok filled ↔
      buffer.length + chunk.length ≤ limit ∧ filled = buffer ++ chunk := by
  by_cases h : buffer.length + chunk.length ≤ limit
  · simp only [takeChunk_of_fits h, Except.ok.injEq, h, true_and, eq_comm]
  · simp only [takeChunk_of_beyond (Nat.lt_of_not_le h), reduceCtorEq, h, false_and]

theorem takeChunk_eq_error_iff :
    takeChunk limit buffer chunk = .error failure ↔
      limit < buffer.length + chunk.length ∧ failure = .responseTooLarge (buffer.length + chunk.length) limit := by
  by_cases h : buffer.length + chunk.length ≤ limit
  · simp only [takeChunk_of_fits h, reduceCtorEq, Nat.not_lt_of_le h, false_and]
  · have hbeyond := Nat.lt_of_not_le h
    simp only [takeChunk_of_beyond hbeyond, Except.error.injEq, hbeyond, true_and, eq_comm]

/-- How far a body has been read: the bytes in the buffer, and the chunks that have not been taken. -/
structure Reading where
  buffer : List UInt8
  unread : List (List UInt8)

namespace Reading

/-- Nothing has been read. -/
def start (chunks : List (List UInt8)) : Reading := ⟨[], chunks⟩

/-- In one turn the next chunk is taken. -/
inductive Turn (limit : Nat) : Reading → Reading → Prop
  | taken {buffer chunk filled : List UInt8} {rest} (h : takeChunk limit buffer chunk = .ok filled) :
      Turn limit ⟨buffer, chunk :: rest⟩ ⟨filled, rest⟩

/-- Any number of turns, one after another. -/
inductive Turns (limit : Nat) : Reading → Reading → Prop
  | refl {a} : Turns limit a a
  | head {a b c} (turn : Turn limit a b) (turns : Turns limit b c) : Turns limit a c

/-- The reading ends when no chunk is left, or with a chunk that is refused. Then that chunk has been looked at, and
the ones after it are not taken. -/
inductive Ends (limit : Nat) : Reading → Outcome (List UInt8) → Prop
  | complete {buffer : List UInt8} : Ends limit ⟨buffer, []⟩ (.ok buffer)
  | refused {buffer chunk : List UInt8} {rest} {failure : Failure}
      (h : takeChunk limit buffer chunk = .error failure) :
      Ends limit ⟨buffer, chunk :: rest⟩ (.error failure)

variable {a b c : Reading} {body : Outcome (List UInt8)}

/-! ### What every turn preserves -/

/-- **The buffer never holds more than the limit.** -/
theorem Turns.within (h : Turns limit a b) (ha : a.buffer.length ≤ limit) : b.buffer.length ≤ limit := by
  induction h with
  | refl => exact ha
  | head turn _ ih =>
    cases turn with
    | taken htaken =>
      obtain ⟨hfits, rfl⟩ := takeChunk_eq_ok_iff.mp htaken
      exact ih (by simpa using hfits)

/-- No byte gets lost or out of order: the buffer holds the chunks that have been taken. -/
theorem Turns.exists_taken (h : Turns limit a b) :
    ∃ taken, a.unread = taken ++ b.unread ∧ b.buffer = a.buffer ++ taken.flatten := by
  induction h with
  | refl => exact ⟨[], by simp⟩
  | head turn _ ih =>
    obtain ⟨taken, hunread, hbuffer⟩ := ih
    cases turn with
    | @taken buffer chunk rest filled htaken =>
      obtain ⟨_, rfl⟩ := takeChunk_eq_ok_iff.mp htaken
      exact ⟨chunk :: taken, by simp [← hunread], by simp [hbuffer]⟩

/-! ### The turns are those of the loop -/

/-- What the loop makes of the rest, with the buffer as it is. -/
def outcome (limit : Nat) (reading : Reading) : Outcome (List UInt8) :=
  reading.unread.foldlM (takeChunk limit) reading.buffer

/-- A turn is one round of the loop. -/
theorem Turn.outcome_eq (h : Turn limit a b) : a.outcome limit = b.outcome limit := by
  cases h with
  | @taken buffer chunk rest filled htaken =>
    unfold outcome
    rw [List.foldlM_cons, htaken]
    rfl

theorem Turns.outcome_eq (h : Turns limit a b) : a.outcome limit = b.outcome limit := by
  induction h with
  | refl => rfl
  | head turn _ ih => exact turn.outcome_eq.trans ih

theorem Ends.outcome_eq (h : Ends limit a body) : a.outcome limit = body := by
  cases h with
  | complete => rfl
  | @refused buffer chunk rest failure hrefused =>
    unfold outcome
    rw [List.foldlM_cons, hrefused]
    rfl

/-- **Every reading comes to an end.** -/
theorem exists_ends (limit : Nat) (buffer : List UInt8) (unread : List (List UInt8)) :
    ∃ last body, Turns limit ⟨buffer, unread⟩ last ∧ Ends limit last body := by
  induction unread generalizing buffer with
  | nil => exact ⟨_, _, .refl, .complete⟩
  | cons chunk rest ih =>
    cases hround : takeChunk limit buffer chunk with
    | ok filled =>
      obtain ⟨last, body, hturns, hends⟩ := ih filled
      exact ⟨last, body, .head (.taken hround) hturns, hends⟩
    | error failure => exact ⟨_, _, .refl, .refused hround⟩

end Reading

open Reading

variable {chunks earlier later : List (List UInt8)} {body : Outcome (List UInt8)}

/-- **A body is what the turns lead to.** -/
theorem collect_iff :
    collect limit chunks = body ↔ ∃ last, Turns limit (Reading.start chunks) last ∧ Ends limit last body := by
  constructor
  · rintro rfl
    obtain ⟨last, body, hturns, hends⟩ := exists_ends limit [] chunks
    have hbody : collect limit chunks = body := hturns.outcome_eq.trans hends.outcome_eq
    exact ⟨last, hturns, hbody ▸ hends⟩
  · rintro ⟨last, hturns, hends⟩
    exact hturns.outcome_eq.trans hends.outcome_eq

/-! ## What the reading comes to -/

/-- Chunks that fit into what is left of the buffer are all taken. -/
theorem turns_of_fits (buffer : List UInt8) (h : buffer.length + earlier.flatten.length ≤ limit) :
    Turns limit ⟨buffer, earlier ++ later⟩ ⟨buffer ++ earlier.flatten, later⟩ := by
  induction earlier generalizing buffer with
  | nil => simpa using Turns.refl
  | cons chunk rest ih =>
    simp only [List.flatten_cons, List.length_append] at h
    have hturn : Turn limit ⟨buffer, chunk :: (rest ++ later)⟩ ⟨buffer ++ chunk, rest ++ later⟩ :=
      .taken (takeChunk_of_fits (by omega))
    have hrest := ih (buffer ++ chunk) (by rw [List.length_append]; omega)
    rw [List.append_assoc] at hrest
    exact .head hturn hrest

theorem turns_of_within (h : earlier.flatten.length ≤ limit) :
    Turns limit (Reading.start (earlier ++ later)) ⟨earlier.flatten, later⟩ :=
  turns_of_fits [] (by simpa using h)

/-- **A body within the limit is read in full.** -/
theorem collect_of_within (h : chunks.flatten.length ≤ limit) : collect limit chunks = .ok chunks.flatten := by
  have hturns : Turns limit (Reading.start (chunks ++ [])) ⟨chunks.flatten, []⟩ := turns_of_within h
  rw [List.append_nil] at hturns
  exact collect_iff.mpr ⟨_, hturns, .complete⟩

/-- The first chunk that goes beyond the limit, with the chunks before it. -/
structure Crossing (limit : Nat) (earlier : List (List UInt8)) (chunk : List UInt8) (chunks : List (List UInt8)) :
    Prop where
  begins : earlier ++ [chunk] <+: chunks
  within : earlier.flatten.length ≤ limit
  beyond : limit < earlier.flatten.length + chunk.length

/-- **That chunk ends the reading**, whatever comes after it. -/
theorem Crossing.collect_eq (h : Crossing limit earlier chunk chunks) :
    collect limit chunks = .error (.responseTooLarge (earlier.flatten.length + chunk.length) limit) := by
  obtain ⟨later, rfl⟩ := h.begins
  rw [List.append_assoc]
  exact collect_iff.mpr ⟨_, turns_of_within h.within, .refused (takeChunk_of_beyond h.beyond)⟩

/-- A body beyond the limit has such a chunk. -/
theorem exists_crossing (h : limit < chunks.flatten.length) : ∃ earlier chunk, Crossing limit earlier chunk chunks := by
  obtain ⟨last, body, hturns, hends⟩ := exists_ends limit [] chunks
  obtain ⟨taken, hchunks, hbuffer⟩ := hturns.exists_taken
  have hwithin := hturns.within (Nat.zero_le limit)
  rw [List.nil_append] at hbuffer
  cases hends with
  | complete =>
    -- All chunks have been taken, so the buffer holds more than it can.
    obtain rfl : chunks = taken := by simpa using hchunks
    rw [hbuffer] at hwithin
    exact absurd hwithin (Nat.not_le_of_lt h)
  | @refused buffer chunk rest failure hrefused =>
    obtain rfl : buffer = taken.flatten := hbuffer
    have hlarge := (takeChunk_eq_error_iff.mp hrefused).1
    have hbegins : taken ++ [chunk] <+: chunks := ⟨rest, by simpa using hchunks.symm⟩
    exact ⟨taken, chunk, hbegins, hwithin, hlarge⟩

/-! ## A response in full -/

/-- Nothing is known that speaks against reading the body: the status reports success, and no length beyond the limit
has been declared. -/
structure Response.IsReadable (limit : Nat) (response : Response) : Prop where
  success : isSuccess response.status = true
  declared : ∀ size, response.declared = some size → size ≤ limit

end Web

namespace Beacon

open Web (Reading)

variable {α : Type} {limit : Nat} {path : String} {url : Url} {read : Document → Option α}
  {response other : Web.Response}

/-- What a whole body holds. -/
def decoded (path : String) (read : Document → Option α) (body : List UInt8) : Outcome α :=
  match (Document.ofBytes? body).bind read with
  | some value => .ok value
  | none => .error (.decode s!"{path}: {Web.jsonRemark}")

theorem digest_of_refused (hstatus : ¬ Web.isSuccess response.status = true) :
    digest limit path url read response =
      .error (.unavailable s!"beacon node ({path} returned {Web.statusText response.status})") := by
  unfold digest
  rw [if_pos hstatus]
  rfl

theorem digest_of_declared {size : Nat} (hstatus : Web.isSuccess response.status = true)
    (hdeclared : response.declared = some size) (h : limit < size) :
    digest limit path url read response = .error (.responseTooLarge size limit) := by
  unfold digest
  rw [if_neg (not_not_intro hstatus), hdeclared]
  simp only [Web.checkSize_of_lt h]
  rfl

/-- Otherwise the body decides, which is read chunk by chunk; only a body that ended as it should is looked into. -/
theorem digest_of_readable (h : response.IsReadable limit) :
    digest limit path url read response = (Web.collect limit response.chunks).bind fun body =>
      if response.isComplete then decoded path read body else .error (.http (.badBody url.text)) := by
  have hrest : ∀ collected : Outcome (List UInt8), (do
      let body ← collected
      if ¬ response.isComplete then throw (.http (.badBody url.text))
      match (Document.ofBytes? body).bind read with
      | some value => return value
      | none => throw (.decode s!"{path}: {Web.jsonRemark}")) =
      collected.bind fun body =>
        if response.isComplete then decoded path read body else .error (.http (.badBody url.text)) := by
    intro collected
    cases response.isComplete <;> rfl
  unfold digest
  rw [if_neg (not_not_intro h.success)]
  cases hdeclared : response.declared with
  | none => exact hrest _
  | some size =>
    simp only [Web.checkSize_of_le (h.declared size hdeclared)]
    exact hrest _

/-- A response without a transport error that can be read within the limit holds what its chunks hold together. -/
theorem digest_of_within (h : response.IsReadable limit) (hcomplete : response.isComplete = true)
    (hfits : response.chunks.flatten.length ≤ limit) :
    digest limit path url read response = decoded path read response.chunks.flatten := by
  rw [digest_of_readable h, Web.collect_of_within hfits]
  show (if response.isComplete then _ else _) = _
  rw [if_pos hcomplete]

theorem digest_of_crossing {earlier : List (List UInt8)} {chunk : List UInt8} (h : response.IsReadable limit)
    (hcrossing : Web.Crossing limit earlier chunk response.chunks) :
    digest limit path url read response =
      .error (.responseTooLarge (earlier.flatten.length + chunk.length) limit) := by
  rw [digest_of_readable h, hcrossing.collect_eq]
  rfl

/-! ## Asking the beacon node -/

/-- The request for an address was sent, and the response came back. -/
def responded (url : Url) (response : Web.Response) : Exchange Web := ⟨.send ⟨.get, url, none⟩, some response⟩

/-- What comes of a request is decided by the response to it. -/
theorem leads_fetch_iff {beacon : Beacon} (hurl : Web.addressOf (beacon.base ++ path) = .ok url)
    {outcome : Outcome α} :
    (beacon.fetch path read).Leads [responded url response] outcome ↔
      outcome = digest beacon.maxBytes path url read response := by
  unfold fetch
  rw [hurl]
  constructor
  · intro h
    obtain ⟨reply, rest, htalk, hdone⟩ := Dialogue.leads_asking_iff.mp h
    obtain ⟨hexchange, rfl⟩ := List.cons.inj htalk
    cases hexchange
    exact (Dialogue.leads_done_iff.mp hdone).2
  · rintro rfl
    exact .asking .done

/-- What a limit of so many bytes means for the outcomes of a request, by the responses to it. -/
structure IsBounded (limit : Nat) (path : String) (read : Document → Option α)
    (outcome : Web.Response → Outcome α) : Prop where
  /-- A status that is no success is reported, whatever the body is. -/
  refused : ∀ response : Web.Response, ¬ Web.isSuccess response.status = true →
    outcome response = .error (.unavailable s!"beacon node ({path} returned {Web.statusText response.status})")
  /-- A declared length beyond the limit is reported, whatever the chunks are. -/
  declared : ∀ (response : Web.Response) size, Web.isSuccess response.status = true → response.declared = some size →
    limit < size → outcome response = .error (.responseTooLarge size limit)
  /-- In a body beyond the limit there is a first chunk that goes beyond it. -/
  beyond : ∀ response : Web.Response, limit < response.chunks.flatten.length →
    ∃ earlier chunk, Web.Crossing limit earlier chunk response.chunks
  /-- It is reported with the bytes up to its end, and the chunks after it make no difference. -/
  crossing : ∀ (response : Web.Response) earlier chunk, response.IsReadable limit →
    Web.Crossing limit earlier chunk response.chunks →
    outcome response = .error (.responseTooLarge (earlier.flatten.length + chunk.length) limit)
  /-- A body within the limit, exactly as long as the limit at most, is decoded in full. -/
  within : ∀ response : Web.Response, response.IsReadable limit → response.isComplete = true →
    response.chunks.flatten.length ≤ limit → outcome response = decoded path read response.chunks.flatten
  /-- The chunks are taken in turns, and how the turns end decides. -/
  turns : ∀ response : Web.Response, response.IsReadable limit → response.isComplete = true →
    ∃ last body, Reading.Turns limit (Reading.start response.chunks) last ∧ Reading.Ends limit last body ∧
      outcome response = body.bind (decoded path read)
  /-- After every turn the buffer is within the limit. -/
  buffer : ∀ chunks reading, Reading.Turns limit (Reading.start chunks) reading → reading.buffer.length ≤ limit
  /-- How a body is cut into chunks makes no difference, except for the size that is reported if it is too long. -/
  chunking : ∀ response other : Web.Response, response.IsReadable limit → other.IsReadable limit →
    response.isComplete = true → other.isComplete = true → response.chunks.flatten = other.chunks.flatten →
    (∃ size size', outcome response = .error (.responseTooLarge size limit) ∧
      outcome other = .error (.responseTooLarge size' limit)) ∨
    outcome response = decoded path read response.chunks.flatten ∧ outcome other = outcome response

theorem isBounded_digest (limit : Nat) (path : String) (url : Url) (read : Document → Option α) :
    IsBounded limit path read (digest limit path url read) := by
  constructor
  case refused => exact fun response hstatus => digest_of_refused hstatus
  case declared => exact fun response size hstatus hdeclared hlarge => digest_of_declared hstatus hdeclared hlarge
  case beyond => exact fun response hlarge => Web.exists_crossing hlarge
  case crossing => exact fun response earlier chunk hreadable hcrossing => digest_of_crossing hreadable hcrossing
  case within => exact fun response hreadable hcomplete hfits => digest_of_within hreadable hcomplete hfits
  case turns =>
    intro response hreadable hcomplete
    obtain ⟨last, hturns, hends⟩ := Web.collect_iff.mp (rfl : Web.collect limit response.chunks = _)
    refine ⟨last, _, hturns, hends, ?_⟩
    simp only [digest_of_readable hreadable, hcomplete, if_true]
  case buffer => exact fun chunks reading hturns => hturns.within (Nat.zero_le limit)
  case chunking =>
    intro response other hreadable hother hcomplete hcomplete' hbody
    by_cases hfits : response.chunks.flatten.length ≤ limit
    · right
      have houtcome : digest limit path url read response = decoded path read response.chunks.flatten :=
        digest_of_within hreadable hcomplete hfits
      rw [houtcome, digest_of_within hother hcomplete' (hbody ▸ hfits), hbody]
      exact ⟨rfl, rfl⟩
    · left
      have hlarge : limit < response.chunks.flatten.length := Nat.lt_of_not_le hfits
      obtain ⟨_, _, hcrossing⟩ := Web.exists_crossing hlarge
      obtain ⟨_, _, hcrossing'⟩ := Web.exists_crossing (hbody ▸ hlarge)
      exact ⟨_, _, digest_of_crossing hreadable hcrossing, digest_of_crossing hother hcrossing'⟩

/-- **A response is read up to the limit, and no further.** Whatever is asked of the beacon node, the response alone
decides what comes of it, within the limit on responses. -/
theorem fetch_bounded {beacon : Beacon} (hurl : Web.addressOf (beacon.base ++ path) = .ok url) :
    ∃ outcome : Web.Response → Outcome α,
      (∀ response result,
        (beacon.fetch path read).Leads [responded url response] result ↔ result = outcome response) ∧
      IsBounded beacon.maxBytes path read outcome :=
  ⟨digest beacon.maxBytes path url read, fun _ _ => leads_fetch_iff hurl,
    isBounded_digest beacon.maxBytes path url read⟩

/-- A beacon node that may just say in its answer that the head is in slot seven. -/
def terse : Beacon := ⟨"http://[::1]:5052", EpochLength.standard, 44⟩

/-- That answer in two parts. -/
def sevenInTwo : List UInt8 × List UInt8 :=
  ("\x7b\"data\":\x7b\"header\":".toUTF8.toList, "\x7b\"message\":\x7b\"slot\":\"7\"\x7d\x7d\x7d\x7d".toUTF8.toList)

/-- That answer, and blanks behind it in chunks of their own. -/
def sevenAndBlanks : List (List UInt8) := [sevenInTwo.1, sevenInTwo.2, [0x20], [0x20, 0x20]]

/-- The answer is as long as the limit, and it is read in one chunk or in two with an empty one between. One byte more
is too long, be it declared or found behind the answer; then the chunk after it is not taken. -/
theorem fetch_bounded_exactly :
    ∃ (url : Url) (outcome : Web.Response → Outcome Slot),
      (∀ response result, terse.head.Leads [responded url response] result ↔ result = outcome response) ∧
      (outcome ⟨200, some 44, [sevenInTwo.1 ++ sevenInTwo.2], true⟩).toOption = some 7 ∧
      (outcome ⟨200, none, [sevenInTwo.1, [], sevenInTwo.2], true⟩).toOption = some 7 ∧
      outcome ⟨200, some 45, [sevenInTwo.1], true⟩ = .error (.responseTooLarge 45 44) ∧
      outcome ⟨200, none, sevenAndBlanks, true⟩ = .error (.responseTooLarge 45 44) ∧
      Reading.Turns 44 (Reading.start sevenAndBlanks) ⟨sevenInTwo.1 ++ sevenInTwo.2, [[0x20], [0x20, 0x20]]⟩ ∧
      Reading.Ends 44 ⟨sevenInTwo.1 ++ sevenInTwo.2, [[0x20], [0x20, 0x20]]⟩ (.error (.responseTooLarge 45 44)) := by
  obtain ⟨url, hurl⟩ : ∃ url, Web.addressOf (terse.base ++ "/eth/v1/beacon/headers/head") = .ok url :=
    fault?_eq_none_iff.mp (by decide +kernel)
  obtain ⟨outcome, hleads, hbounded⟩ :=
    (fetch_bounded hurl : ∃ outcome : Web.Response → Outcome Slot, _ ∧ IsBounded _ _ headSlot? outcome)
  have hanswer : (sevenInTwo.1 ++ sevenInTwo.2).length = 44 := by decide +kernel
  have hflatten : [sevenInTwo.1, sevenInTwo.2].flatten = sevenInTwo.1 ++ sevenInTwo.2 := by simp
  have hwithin : [sevenInTwo.1, sevenInTwo.2].flatten.length ≤ 44 := Nat.le_of_eq (by rw [hflatten, hanswer])
  have hbeyond : 44 < [sevenInTwo.1, sevenInTwo.2].flatten.length + [(0x20 : UInt8)].length := by
    rw [hflatten, hanswer]
    decide
  refine ⟨url, outcome, hleads, ?_, ?_, ?_, ?_, ?_, ?_⟩
  · rw [hbounded.within _ ⟨rfl, by rintro size ⟨⟩; decide⟩ rfl (by decide +kernel)]
    decide +kernel
  · rw [hbounded.within _ ⟨rfl, by rintro size ⟨⟩⟩ rfl (by decide +kernel)]
    decide +kernel
  · exact hbounded.declared _ 45 rfl rfl (by decide)
  · have hlarge := hbounded.crossing ⟨200, none, sevenAndBlanks, true⟩ [sevenInTwo.1, sevenInTwo.2] [0x20]
      ⟨rfl, nofun⟩ ⟨⟨[[0x20, 0x20]], rfl⟩, hwithin, hbeyond⟩
    rwa [hflatten, hanswer] at hlarge
  · have hturns : Reading.Turns 44 (Reading.start ([sevenInTwo.1, sevenInTwo.2] ++ [[0x20], [0x20, 0x20]]))
        ⟨[sevenInTwo.1, sevenInTwo.2].flatten, [[0x20], [0x20, 0x20]]⟩ := Web.turns_of_within hwithin
    rw [hflatten] at hturns
    exact hturns
  · have hrefused := Web.takeChunk_of_beyond hbeyond
    rw [hflatten, hanswer] at hrefused
    exact .refused hrefused

end Beacon
end DutyRelay
