import Mathlib.Data.List.DropRight
import DutyRelay.Config
import DutyRelay.Proofs.Submission

/-!
# Endpoints as bases of addresses

An endpoint passes the check of a configuration if something stands behind its scheme. The address of a request is the
endpoint without the slashes at its end, and a path behind it. A scheme ends in slashes itself: if nothing but slashes
stands behind it, they are all taken off, and the first segment of the path is read as the host. The same happens if
what stands behind it is passed over in front of a host, as backslashes, tabs and line ends are. Any other endpoint
keeps its host, whatever the path is.

## Contents
- `Url.Front`, `Url.front?`, `Url.Site`, `Url.Front.site?`: what an address says in front of its path.
- `Url.map_site_ofText?`: where an address leads is read off its front.
- `Url.isPassedOver`, `Url.hostPart`: the host part of the text behind a scheme, and what is passed over before it.
- `Url.front?_of_name`, `Url.hostPart_append_slash`, `Url.hostPart_append_of_passedOver`: how a front is read.
- `Config.isEndpoint_iff`, `Beacon.isEndpoint_withoutSlashes_iff`: endpoints, and their bases.
- `Beacon.front?_of_kept`, `Beacon.front?_of_passedOver`: the fronts of the addresses of requests.
- `Beacon.Asks`: what a path is asked for with a front.
- `Beacon.endpoint_kept_iff`: which endpoints keep their host; `Beacon.passed_without_host`: one that passes the check
  and does not.
-/

namespace DutyRelay

open Json (Document)

namespace Url

/-! ## Fronts of addresses -/

/-- What an address says in front of its path: its scheme, and the text in which the host stands. -/
structure Front where
  scheme : String
  authority : List Char
deriving DecidableEq

/-- Where an address leads. -/
structure Site where
  scheme : String
  credentials : Option String
  host : Host
  number : Option Nat
deriving DecidableEq

def site (url : Url) : Site := ⟨url.scheme, url.credentials, url.host, url.number⟩

/-- Whether the text in which the host stands ends in front of a character. -/
def endsFront (c : Char) : Bool := Path.isSlash c || c = '?' || c = '#'

/-- Reads the front of an address. -/
def front? (text : String) : Option Front := do
  let (scheme, rest) := Text.cut (· = ':') (trimmed text.toList)
  let scheme := String.ofList (scheme.map Char.toLower)
  let _ ← schemeNumber? scheme
  guard (rest.head? = some ':')
  return ⟨scheme, (Text.cut endsFront ((rest.drop 1).dropWhile Path.isSlash)).1⟩

/-- Where a front leads. -/
def Front.site? (front : Front) : Option Site := do
  let standard ← schemeNumber? front.scheme
  let (credentials, authority) := splitCredentials front.authority
  let (host, number) := splitHost authority
  let host ← Host.ofText? host
  let number ← numberOf? number
  return ⟨front.scheme, keptCredentials? credentials, host, if number = some standard then none else number⟩

/-- Where an address leads is read off its front; the path does not matter. -/
theorem map_site_ofText? (text : String) : (ofText? text).map site = (front? text).bind Front.site? := by
  unfold ofText? front?
  simp only [Option.bind_eq_bind, Option.map_bind, Option.bind_assoc]
  cases hscheme : schemeNumber? (String.ofList ((Text.cut (· = ':') (trimmed text.toList)).1.map Char.toLower)) with
  | none => rfl
  | some standard =>
    simp only [Option.bind_some, Function.comp_apply, Option.map_bind]
    refine congrArg _ (funext fun _ => ?_)
    simp only [Option.pure_def, Option.bind_some, Front.site?, hscheme, Option.bind_eq_bind, Option.map_some,
      site]
    -- What is left differs in the name of the test alone.
    unfold endsFront
    rfl

/-! ## The host part -/

def isEdge (c : Char) : Bool := c.toNat ≤ 0x20

def isBreak (c : Char) : Bool := c = '\t' || c = '\n' || c = '\r'

/-- Whether a character behind a scheme is passed over in front of the host. -/
def isPassedOver (c : Char) : Bool := Path.isSlash c || isBreak c

/-- The text in which the host stands, behind a scheme and its colon. -/
def hostPart (rest : List Char) : List Char :=
  (Text.cut endsFront ((rest.filter fun c => !isBreak c).dropWhile Path.isSlash)).1

/-- What is dropped at the end of a text does not reach past a character that stays. -/
theorem rdropWhile_append_cons {p : Char → Bool} {c : Char} (hc : ¬ p c = true) (front back : List Char) :
    (front ++ c :: back).rdropWhile p = front ++ c :: back.rdropWhile p := by
  induction back using List.reverseRecOn with
  | nil => exact List.rdropWhile_concat_neg p front c hc
  | append_singleton back x ih =>
    rw [← List.cons_append, ← List.append_assoc]
    by_cases hx : p x = true
    · rw [List.rdropWhile_concat_pos _ _ _ hx, List.rdropWhile_concat_pos _ _ _ hx, ih]
    · rw [List.rdropWhile_concat_neg _ _ _ hx, List.rdropWhile_concat_neg _ _ _ hx, List.append_assoc]
      rfl

theorem trimmed_eq (text : List Char) :
    trimmed text = ((text.dropWhile isEdge).rdropWhile isEdge).filter fun c => !isBreak c := by
  refine List.filter_congr fun c _ => ?_
  simp [isBreak]

/-- The front of an address with a name of a scheme and a colon. -/
theorem front?_of_name {name : String} (hname : name = "http" ∨ name = "https") (rest : String) :
    front? (name ++ ":" ++ rest) = some ⟨name, hostPart (rest.toList.rdropWhile isEdge)⟩ := by
  have htrimmed : trimmed (name ++ ":" ++ rest).toList =
      name.toList ++ ':' :: (rest.toList.rdropWhile isEdge).filter fun c => !isBreak c := by
    have hedge : (name.toList ++ ':' :: rest.toList).dropWhile isEdge = name.toList ++ ':' :: rest.toList := by
      rcases hname with rfl | rfl <;> rfl
    have hbreak : name.toList.filter (fun c => !isBreak c) = name.toList := by
      rcases hname with rfl | rfl <;> rfl
    rw [trimmed_eq, String.toList_append, String.toList_append, List.append_assoc]
    show (((name.toList ++ ':' :: rest.toList).dropWhile isEdge).rdropWhile isEdge).filter _ = _
    rw [hedge, rdropWhile_append_cons (by decide), List.filter_append, hbreak]
    rfl
  unfold front?
  rw [htrimmed]
  rcases hname with rfl | rfl <;> rfl

/-- What is passed over in front of a host has no part in it. -/
theorem hostPart_append_of_passedOver {front : List Char} (h : ∀ c ∈ front, isPassedOver c = true)
    (back : List Char) : hostPart (front ++ back) = hostPart back := by
  have hslash : ∀ c ∈ front.filter (fun c => !isBreak c), Path.isSlash c = true := by
    intro c hc
    obtain ⟨hmem, hbreak⟩ := List.mem_filter.mp hc
    have hpassed := h c hmem
    simp_all [isPassedOver]
  unfold hostPart
  rw [List.filter_append, List.dropWhile_append_of_pos hslash]

/-- A slash behind anything that is not passed over ends the text in which the host stands. -/
theorem hostPart_append_slash {front : List Char} (h : ∃ c ∈ front, isPassedOver c = false)
    (back : List Char) : hostPart (front ++ '/' :: back) = hostPart front := by
  obtain ⟨c, hc, hpassed⟩ := h
  obtain ⟨hslash, hbreak⟩ : Path.isSlash c = false ∧ isBreak c = false := by
    simpa [isPassedOver] using hpassed
  have hne : (front.filter fun c => !isBreak c).dropWhile Path.isSlash ≠ [] := by
    intro hnil
    have hall := List.dropWhile_eq_nil_iff.mp hnil c (List.mem_filter.mpr ⟨hc, by simp [hbreak]⟩)
    simp [hslash] at hall
  unfold hostPart
  rw [List.filter_append, List.dropWhile_append, if_neg (by simpa using hne)]
  show List.takeWhile _ (_ ++ '/' :: _) = List.takeWhile _ _
  rw [List.takeWhile_append]
  split
  next hlength =>
    rw [List.takeWhile_cons_of_neg (by decide), List.append_nil]
    exact ((List.takeWhile_prefix _).eq_of_length hlength).symm
  next => rfl

/-- What is not passed over stays when slashes are taken off at the end. -/
theorem exists_of_rdropWhile {text : List Char} (h : ∃ c ∈ text, isPassedOver c = false) :
    ∃ c ∈ text.rdropWhile (· = '/'), isPassedOver c = false := by
  obtain ⟨c, hc, hpassed⟩ := h
  obtain ⟨before, after, rfl⟩ := List.append_of_mem hc
  have hne : ¬ decide (c = '/') = true := by
    intro hslash
    obtain rfl : c = '/' := by simpa using hslash
    exact absurd hpassed (by decide)
  rw [rdropWhile_append_cons hne]
  exact ⟨c, by simp, hpassed⟩

/-- Slashes at the end have no part in it either. -/
theorem hostPart_rdropWhile {text : List Char} (h : ∃ c ∈ text, isPassedOver c = false) :
    hostPart (text.rdropWhile (· = '/')) = hostPart text := by
  have hsplit : text.rdropWhile (· = '/') ++ text.rtakeWhile (· = '/') = text :=
    List.rdropWhile_append_rtakeWhile
  cases hslashes : text.rtakeWhile (· = '/') with
  | nil =>
    rw [hslashes, List.append_nil] at hsplit
    rw [hsplit]
  | cons slash back =>
    obtain rfl : slash = '/' := by
      have hmem : slash ∈ text.rtakeWhile (· = '/') := by rw [hslashes]; exact List.mem_cons_self
      simpa using List.mem_rtakeWhile_imp hmem
    rw [← hostPart_append_slash (exists_of_rdropWhile h) back, ← hslashes, hsplit]

end Url

/-! ## Endpoints -/

/-- An endpoint has the name of a scheme, the marks that end it, and something behind them. -/
theorem Config.isEndpoint_iff {text : String} : isEndpoint text = true ↔
    ∃ name rest, (name = "http" ∨ name = "https") ∧ rest ≠ "" ∧ text = name ++ "://" ++ rest := by
  have hscheme (scheme : String) :
      (scheme.toList.isPrefixOf text.toList = true ∧ scheme.toList.length < text.toList.length) ↔
        ∃ rest, rest ≠ "" ∧ text = scheme ++ rest := by
    rw [List.isPrefixOf_iff_prefix]
    constructor
    · rintro ⟨⟨rest, hrest⟩, hlength⟩
      refine ⟨String.ofList rest, ?_, String.toList_inj.mp (by simpa using hrest.symm)⟩
      rintro hempty
      obtain rfl : rest = [] := by simpa using String.toList_eq_nil_iff.mpr hempty
      simp [← hrest] at hlength
    · rintro ⟨rest, hrest, rfl⟩
      refine ⟨⟨rest.toList, (String.toList_append ..).symm⟩, ?_⟩
      have hpos : 0 < rest.toList.length := List.length_pos_iff.mpr fun hnil =>
        hrest (String.toList_eq_nil_iff.mp hnil)
      rw [String.toList_append, List.length_append]
      omega
  simp only [isEndpoint, schemes, List.any_cons, List.any_nil, Bool.or_false, Bool.or_eq_true, Bool.and_eq_true,
    decide_eq_true_eq, hscheme]
  constructor
  · rintro (⟨rest, hrest, htext⟩ | ⟨rest, hrest, htext⟩)
    · exact ⟨"http", rest, .inl rfl, hrest, htext⟩
    · exact ⟨"https", rest, .inr rfl, hrest, htext⟩
  · rintro ⟨name, rest, rfl | rfl, hrest, htext⟩
    · exact .inl ⟨rest, hrest, htext⟩
    · exact .inr ⟨rest, hrest, htext⟩

namespace Beacon

variable {name rest path : String} {beacon : Beacon} {front : Url.Front}

/-! ## Bases -/

/-- The slashes at the end of an endpoint are looked for behind the colon of its scheme only. -/
theorem withoutSlashes_eq (name rest : String) : withoutSlashes (name ++ "://" ++ rest) =
    name ++ ":" ++ String.ofList ((['/', '/'] ++ rest.toList).rdropWhile (· = '/')) := by
  refine String.toList_inj.mp ?_
  have hcolon := Url.rdropWhile_append_cons (p := (· = '/')) (c := ':') (by decide) name.toList
    (['/', '/'] ++ rest.toList)
  simpa [withoutSlashes, List.rdropWhile] using hcolon

/-- The base of an endpoint is an endpoint exactly if something else than slashes stands behind the scheme. -/
theorem isEndpoint_withoutSlashes_iff (hname : name = "http" ∨ name = "https") :
    Config.isEndpoint (withoutSlashes (name ++ "://" ++ rest)) = true ↔ ∃ c ∈ rest.toList, c ≠ '/' := by
  rw [withoutSlashes_eq]
  constructor
  · intro hendpoint
    by_contra hslashes
    -- Nothing is left behind the colon then.
    have hnil : (['/', '/'] ++ rest.toList).rdropWhile (· = '/') = [] := by
      refine List.rdropWhile_eq_nil_iff.mpr fun c hc => ?_
      rcases List.mem_append.mp hc with hc | hc
      · simpa using hc
      · simpa using not_not.mp fun hne => hslashes ⟨c, hc, hne⟩
    rw [hnil] at hendpoint
    rcases hname with rfl | rfl <;> exact absurd hendpoint (by decide)
  · rintro ⟨c, hc, hne⟩
    obtain ⟨before, after, hrest⟩ := List.append_of_mem hc
    refine Config.isEndpoint_iff.mpr ⟨name, String.ofList (before ++ c :: after.rdropWhile (· = '/')), hname, ?_, ?_⟩
    · intro hempty
      simpa using String.toList_eq_nil_iff.mpr hempty
    · rw [hrest, ← List.append_assoc, Url.rdropWhile_append_cons (by simpa using hne)]
      exact String.toList_inj.mp (by simp)

/-- The address of a request for a path. -/
theorem base_append (name rest path : String) : withoutSlashes (name ++ "://" ++ rest) ++ ("/" ++ path) =
    name ++ ":" ++ String.ofList ((['/', '/'] ++ rest.toList).rdropWhile (· = '/') ++ '/' :: path.toList) := by
  rw [withoutSlashes_eq]
  exact String.toList_inj.mp (by simp)

/-- The host part of an endpoint stays if something behind the scheme is not passed over, whatever the path is. -/
theorem front?_of_kept (hname : name = "http" ∨ name = "https")
    (h : ∃ c ∈ rest.toList, Url.isPassedOver c = false) (path : String) :
    Url.front? (withoutSlashes (name ++ "://" ++ rest) ++ ("/" ++ path)) =
      some ⟨name, Url.hostPart rest.toList⟩ := by
  have hbehind : ∃ c ∈ ['/', '/'] ++ rest.toList, Url.isPassedOver c = false := by
    obtain ⟨c, hc, hpassed⟩ := h
    exact ⟨c, List.mem_append_right _ hc, hpassed⟩
  rw [base_append, Url.front?_of_name hname, String.toList_ofList, Url.rdropWhile_append_cons (by decide),
    Url.hostPart_append_slash (Url.exists_of_rdropWhile hbehind), Url.hostPart_rdropWhile hbehind,
    Url.hostPart_append_of_passedOver (by simp [Url.isPassedOver, Url.Path.isSlash])]

/-- Else the path is read as what follows the scheme. -/
theorem front?_of_passedOver (hname : name = "http" ∨ name = "https")
    (h : ∀ c ∈ rest.toList, Url.isPassedOver c = true) (path : String) :
    Url.front? (withoutSlashes (name ++ "://" ++ rest) ++ ("/" ++ path)) =
      some ⟨name, Url.hostPart (path.toList.rdropWhile Url.isEdge)⟩ := by
  have hslash : Url.isPassedOver '/' = true := by decide
  have hpassed : ∀ c ∈ (['/', '/'] ++ rest.toList).rdropWhile (· = '/') ++ ['/'], Url.isPassedOver c = true := by
    intro c hc
    rcases List.mem_append.mp hc with hc | hc
    · rcases List.mem_append.mp ((List.rdropWhile_prefix _ _).subset hc) with hc | hc
      · simp_all
      · exact h c hc
    · simp_all
  rw [base_append, Url.front?_of_name hname, String.toList_ofList, Url.rdropWhile_append_cons (by decide),
    List.append_cons, Url.hostPart_append_of_passedOver hpassed]

/-- The paths that are asked for begin with the same segment. -/
theorem hostPart_eth (path : String) :
    Url.hostPart (("eth/" ++ path).toList.rdropWhile Url.isEdge) = "eth".toList := by
  rw [String.toList_append]
  show Url.hostPart ((['e', 't', 'h'] ++ '/' :: path.toList).rdropWhile Url.isEdge) = _
  rw [Url.rdropWhile_append_cons (by decide), Url.hostPart_append_slash ⟨'e', by simp, by decide⟩]
  rfl

/-! ## Requests -/

/-- What a path is asked for with a front: the address has that front and leads where it leads, if it can be read, and
no request goes anywhere else. -/
structure Asks (beacon : Beacon) (path : String) (front : Url.Front) : Prop where
  front_eq : Url.front? (beacon.base ++ path) = some front
  site_eq : (Url.ofText? (beacon.base ++ path)).map Url.site = front.site?
  sent : ∀ (α : Type) (read : Document → Option α) talk outcome, (beacon.fetch path read).Leads talk outcome →
    ∀ post ∈ postsOf talk, some post.request.url.site = front.site?

/-- A fetch sends nothing, or one request to the address. -/
theorem url_of_fetch {α : Type} {read : Document → Option α} {talk : List (Exchange Web)} {outcome : Outcome α}
    (h : (beacon.fetch path read).Leads talk outcome) {post : Post} (hpost : post ∈ postsOf talk) :
    Url.ofText? (beacon.base ++ path) = some post.request.url := by
  unfold fetch Web.addressOf at h
  cases hurl : Url.ofText? (beacon.base ++ path) with
  | none =>
    rw [hurl] at h
    obtain ⟨rfl, -⟩ := Dialogue.leads_done_iff.mp h
    cases hpost
  | some url =>
    rw [hurl] at h
    by_cases hsendable : url.isSendable = true
    · simp only [hsendable, if_true] at h
      obtain ⟨response, rest, rfl, hrest⟩ := Dialogue.leads_asking_iff.mp h
      obtain rfl : rest = [] := by
        cases response <;> exact (Dialogue.leads_done_iff.mp hrest).1
      obtain rfl := List.mem_singleton.mp hpost
      rfl
    · simp only [hsendable] at h
      obtain ⟨rfl, -⟩ := Dialogue.leads_done_iff.mp h
      cases hpost

theorem asks_iff : beacon.Asks path front ↔ Url.front? (beacon.base ++ path) = some front := by
  refine ⟨Asks.front_eq, fun hfront => ?_⟩
  have hsite : (Url.ofText? (beacon.base ++ path)).map Url.site = front.site? := by
    rw [Url.map_site_ofText?, hfront, Option.bind_some]
  refine ⟨hfront, hsite, fun α read talk outcome htalk post hpost => ?_⟩
  rw [← hsite, url_of_fetch htalk hpost, Option.map_some]

/-- **Which endpoints keep their host.** An endpoint that passes the check has a scheme with something behind it. Its
base still has that exactly if not all of it is slashes, and the requests go to the host of the endpoint exactly if not
all of it is passed over in front of a host. Else the path is read as the host: all requests go to the host with the
name of its first segment. -/
theorem endpoint_kept_iff {config : Config} (passed : config.check = .ok ()) :
    ∃ beacon name rest,
      ofEndpoint config.beaconEndpoint config.slotsPerEpoch config.maxResponseBytes = .ok beacon ∧
      (name = "http" ∨ name = "https") ∧ rest ≠ "" ∧ config.beaconEndpoint = name ++ "://" ++ rest ∧
      (Config.isEndpoint beacon.base = true ↔ ∃ c ∈ rest.toList, c ≠ '/') ∧
      ((∀ path, beacon.Asks ("/" ++ path) ⟨name, Url.hostPart rest.toList⟩) ↔
        ∃ c ∈ rest.toList, Url.isPassedOver c = false) ∧
      ((∀ c ∈ rest.toList, Url.isPassedOver c = true) →
        ∀ path, beacon.Asks ("/eth/" ++ path) ⟨name, "eth".toList⟩) := by
  obtain ⟨⟨hslots, -⟩, -, -, -, -, -, hendpoint, -⟩ := Config.check_eq_ok_iff.mp passed
  obtain ⟨name, rest, hname, hrest, heq⟩ := Config.isEndpoint_iff.mp hendpoint
  refine ⟨⟨withoutSlashes config.beaconEndpoint, ⟨_, hslots⟩, config.maxResponseBytes⟩, name, rest, ?_, hname, hrest,
    heq, ?_, ?_, ?_⟩
  · simp only [ofEndpoint, EpochLength.ofSlots, dif_pos hslots]
    rfl
  · rw [heq]
    exact isEndpoint_withoutSlashes_iff hname
  · simp only [asks_iff, heq]
    constructor
    · intro hkept
      by_contra hnone
      have hpassed : ∀ c ∈ rest.toList, Url.isPassedOver c = true := by simpa using hnone
      -- The endpoint has no host part, but the path has one.
      have hhost : Url.hostPart rest.toList = [] := by
        rw [← List.append_nil rest.toList, Url.hostPart_append_of_passedOver hpassed]
        rfl
      have hpath := (hkept "eth").symm.trans (front?_of_passedOver hname hpassed "eth")
      have hauthority : Url.hostPart rest.toList = Url.hostPart ("eth".toList.rdropWhile Url.isEdge) :=
        congrArg Url.Front.authority (Option.some.inj hpath)
      rw [hhost] at hauthority
      exact absurd hauthority (by decide)
    · exact front?_of_kept hname
  · intro hpassed path
    rw [asks_iff, heq]
    have hpath : "/eth/" ++ path = "/" ++ ("eth/" ++ path) := String.toList_inj.mp (by simp)
    rw [hpath, front?_of_passedOver hname hpassed, hostPart_eth]

/-- The standard configuration with another beacon endpoint. -/
def standardAt (endpoint : String) : Config := { Config.standard 0 with beaconEndpoint := endpoint }

/-- An endpoint with slashes at its end, one of them a backslash, keeps its host. -/
theorem endpoint_kept_loopback :
    (standardAt "http://[::1]:5052/\x5c//").check = .ok () ∧
    ∃ beacon, ofEndpoint "http://[::1]:5052/\x5c//" 32 (4 * 1024 * 1024) = .ok beacon ∧
      beacon.base = "http://[::1]:5052/\x5c" ∧
      (∀ path, beacon.Asks ("/" ++ path) ⟨"http", "[::1]:5052".toList⟩) ∧
      (Url.Front.site? ⟨"http", "[::1]:5052".toList⟩).bind Url.Site.number = some 5052 := by
  have hcheck : (standardAt "http://[::1]:5052/\x5c//").check = .ok () := by decide +kernel
  obtain ⟨beacon, name, rest, hbeacon, hname, -, heq, -, hkept, -⟩ := endpoint_kept_iff hcheck
  have hbase : beacon.base = "http://[::1]:5052/\x5c" := by
    obtain rfl := Except.ok.inj hbeacon
    rfl
  rcases hname with rfl | rfl
  · have hrest : "[::1]:5052/\x5c//".toList = rest.toList := by
      have htext : "http://".toList ++ "[::1]:5052/\x5c//".toList = "http://".toList ++ rest.toList :=
        (congrArg String.toList heq).trans String.toList_append
      exact List.append_cancel_left htext
    rw [← hrest] at hkept
    exact ⟨hcheck, beacon, hbeacon, hbase, hkept.mpr ⟨':', by simp, by decide⟩, by decide +kernel⟩
  · have htext := congrArg String.toList heq
    simp [standardAt] at htext

/-- An endpoint of slashes alone passes the check, and nothing but the name of its scheme is left of it. The path is
read as the host. -/
theorem passed_without_host :
    (standardAt "http:///").check = .ok () ∧
    ∃ beacon, ofEndpoint "http:///" 32 (4 * 1024 * 1024) = .ok beacon ∧ beacon.base = "http:" ∧
      ¬ Config.isEndpoint beacon.base = true ∧
      Url.front? (beacon.base ++ "/eth/v1/beacon/headers/head") = some ⟨"http", "eth".toList⟩ := by
  exact ⟨by decide +kernel, ⟨"http:", ⟨32, by decide⟩, 4 * 1024 * 1024⟩, rfl, rfl, by decide +kernel, by decide +kernel⟩

end Beacon
end DutyRelay
