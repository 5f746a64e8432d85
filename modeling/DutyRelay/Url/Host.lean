import DutyRelay.Url.Domain
import DutyRelay.Url.Ipv4
import DutyRelay.Url.Ipv6
import DutyRelay.Url.Percent

/-!
# Hosts

A host is a domain or an address of one of the two kinds; an IPv6 address stands in brackets.

## Contents
- `Host`, `Host.ofText?`.
- `Host.name`, `Host.text`.
-/

namespace DutyRelay

/-- A host. -/
inductive Host where
  /-- A domain in its ASCII form. -/
  | domain (name : String)
  | ipv4 (address : Ipv4)
  | ipv6 (address : Ipv6)
deriving DecidableEq, Repr

namespace Host

instance : Inhabited Host := ⟨.domain ""⟩

/-- Reads a host in brackets. -/
def ofBracketed? (text : List Char) : Option Host := do
  guard (text.getLast? = some ']')
  return .ipv6 (← Ipv6.ofText? (text.drop 1).dropLast)

/-- Reads a host without brackets. -/
def ofNamed? (text : List Char) : Option Host := do
  let name ← Url.Domain.toAscii? (← Url.Percent.decodeText? text)
  if name = [] then none
  else if Ipv4.endsInNumber name then return .ipv4 (← Ipv4.ofText? name)
  else return .domain (String.ofList name)

/-- Reads a host. -/
def ofText? (text : List Char) : Option Host :=
  if text.head? = some '[' then ofBracketed? text else ofNamed? text

/-- The host by itself, as it is looked up. -/
def name : Host → String
  | .domain name => name
  | .ipv4 address => address.text
  | .ipv6 address => address.text

/-- The host as it stands in an address. -/
def text : Host → String
  | .ipv6 address => "[" ++ address.text ++ "]"
  | other => other.name

/-- Whether a host may stand in the head of a request: no quotes and braces are in it. -/
def isPlain (host : Host) : Bool := !host.name.toList.any (Url.Percent.isOneOf "\"\x60\x7b\x7d")

end Host
end DutyRelay
