import DutyRelay.Url.Host
import DutyRelay.Url.Path
import DutyRelay.Word

/-!
# Web addresses

An address of the schemes `http` and `https` is read leniently and kept in its normal form: the
scheme in lower case, the host as `Host` writes it, the number after the colon only where it is not
the scheme's own, a path that begins with a slash and has no dot segments, and percent signs for
what may not stand as it is. Credentials in front of the host are taken off.

## Contents
- `Url`, `Url.text`, `Url.target`, `Url.authority`.
- `Url.keptCredentials?`: what is left of credentials that cannot be read.
- `Url.ofText?`.
- `Url.isSendable`: whether a request can go to an address.
-/

namespace DutyRelay

/-- A web address in normal form. -/
structure Url where
  scheme : String
  /-- What stands in front of the host, where it could not be taken off. -/
  credentials : Option String
  host : Host
  /-- The number after the colon, where it is not the scheme's own. -/
  number : Option Nat
  /-- The path, with its first slash. -/
  path : String
  query : Option String
  fragment : Option String
deriving DecidableEq, Inhabited, Repr

namespace Url

/-! ## Written form -/

/-- The host, with the number behind it where there is one. -/
def authority (url : Url) : String :=
  url.host.text ++ (url.number.map fun n => ":" ++ toString n).getD ""

/-- The path and the query: what a server is asked for. -/
def target (url : Url) : String := url.path ++ (url.query.map ("?" ++ ·)).getD ""

/-- The whole address. -/
def text (url : Url) : String :=
  url.scheme ++ "://" ++ (url.credentials.map (· ++ "@")).getD "" ++ url.authority ++ url.target ++
    (url.fragment.map ("#" ++ ·)).getD ""

/-! ## Reading -/

/-- The text without blanks and control characters at its ends, and without tabs and line ends. -/
def trimmed (text : List Char) : List Char :=
  let isEdge (c : Char) : Bool := c.toNat ≤ 0x20
  ((text.dropWhile isEdge).reverse.dropWhile isEdge).reverse.filter fun c =>
    c ≠ '\t' && c ≠ '\n' && c ≠ '\r'

/-- The number that a scheme has where none is given; other schemes are not supported. -/
def schemeNumber? (scheme : String) : Option Nat :=
  if scheme = "http" then some 80 else if scheme = "https" then some 443 else none

/-- What is in front of the last `@` of an authority, and what is behind it. -/
def splitCredentials (authority : List Char) : List Char × List Char :=
  let behind := (authority.reverse.takeWhile (· ≠ '@')).reverse
  ((authority.take (authority.length - behind.length)).dropLast, behind)

/-- The credentials that stay in front of a host. They are taken off if there is a name that can be
read, or no name but a password that can be read; else they stay as far as they are not empty. -/
def keptCredentials? (text : List Char) : Option String :=
  let (name, password) := Text.cut (· = ':') text
  let password := password.drop 1
  let isReadable (part : List Char) : Bool := (Percent.decodeText? part).isSome
  let isTaken := isReadable name && (name ≠ [] || isReadable password)
  if isTaken then none
  else
    let written (part : List Char) : String := String.ofList (Percent.encode Percent.inCredentials part)
    some (written name ++ (if password = [] then "" else ":" ++ written password))

/-- Splits an authority at the colon behind the host; a colon in brackets belongs to the host. -/
def splitHost (authority : List Char) : List Char × List Char :=
  if authority.head? = some '[' then
    let (inner, rest) := Text.cut (· = ']') authority
    (inner ++ rest.take 1, rest.drop 1)
  else Text.cut (· = ':') authority

/-- The number behind a host: digits after a colon, below 2^16; it may be missing. -/
def numberOf? : List Char → Option (Option Nat)
  | [] => some none
  | ':' :: digits =>
    if !digits.all Char.isDigit then none
    else if digits.isEmpty then some none
    else
      let n := Word.ofDigits digits
      if n < 65536 then some (some n) else none
  | _ => none

/-- Reads an address. -/
def ofText? (text : String) : Option Url := do
  let (scheme, rest) := Text.cut (· = ':') (trimmed text.toList)
  let scheme := String.ofList (scheme.map Char.toLower)
  let standard ← schemeNumber? scheme
  guard (rest.head? = some ':')
  let rest := (rest.drop 1).dropWhile Path.isSlash
  let (authority, rest) := Text.cut (fun c => Path.isSlash c || c = '?' || c = '#') rest
  let (credentials, authority) := splitCredentials authority
  let (host, number) := splitHost authority
  let host ← Host.ofText? host
  let number ← numberOf? number
  let (rest, fragment) := Text.cut (· = '#') rest
  let (path, query) := Text.cut (· = '?') rest
  let part (isEncoded : Char → Bool) (marked : List Char) : Option String :=
    match marked with
    | [] => none
    | _ :: inner => some (String.ofList (Percent.encode isEncoded inner))
  return {
    scheme
    credentials := keptCredentials? credentials
    host
    number := if number = some standard then none else number
    path := Path.ofText path
    query := part Percent.inQuery query
    fragment := part Percent.inFragment fragment }

/-! ## Requests -/

/-- The longest address that a request can go to, in bytes. -/
def longest : Nat := 65534

/-- Whether a request can go to an address. -/
def isSendable (url : Url) : Bool := url.host.isPlain && url.text.utf8ByteSize ≤ longest

end Url
end DutyRelay
