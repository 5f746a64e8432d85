import DutyRelay.Text

/-!
# IPv4 addresses

A host whose last part is a number is an IPv4 address. It is read in any of the old spellings, with
up to four parts in decimal, octal or hexadecimal, the last of which fills what the others leave; it
is written as four decimal numbers.

## Contents
- `Ipv4`, `Ipv4.text`.
- `Ipv4.endsInNumber`, `Ipv4.ofText?`.
-/

namespace DutyRelay

/-- An IPv4 address. -/
structure Ipv4 where
  value : UInt32
deriving DecidableEq, Inhabited, Repr

namespace Ipv4

/-- The four bytes, the highest one first. -/
def octets (address : Ipv4) : List Nat :=
  [address.value.toNat / 0x1000000, address.value.toNat / 0x10000 % 0x100,
    address.value.toNat / 0x100 % 0x100, address.value.toNat % 0x100]

/-- Four decimal numbers. -/
def text (address : Ipv4) : String := ".".intercalate (address.octets.map toString)

/-! ## Reading -/

/-- The number that a part stands for: hexadecimal behind `0x`, octal behind a zero, else decimal. -/
def part? : List Char → Option Nat
  | [] => none
  | '0' :: 'x' :: digits => Text.numeral? 16 digits
  | '0' :: digits => Text.numeral? 8 digits
  | digits => Text.numeral? 10 digits

/-- The parts of a host, without an empty one at the end. -/
def parts (host : List Char) : List (List Char) :=
  match (Text.pieces (· = '.') host).reverse with
  | [] :: others => others.reverse
  | all => all.reverse

/-- Whether the last part of a host is a number, so that the host has to be an IPv4 address. -/
def endsInNumber (host : List Char) : Bool :=
  match (parts host).getLast? with
  | none => false
  | some last => (!last.isEmpty && last.all Char.isDigit) || (part? last).isSome

/-- The number that parts make when so many bytes are left for them; the last part fills all that is
left. -/
def combine? : (room : Nat) → List Nat → Option Nat
  | 0, _ => none
  | _, [] => none
  | room + 1, [last] => if last < Nat.pow 0x100 (room + 1) then some last else none
  | room + 1, first :: rest => do
    let low ← combine? room rest
    if first < 0x100 then some (first * Nat.pow 0x100 room + low) else none

theorem combine?_lt {room n : Nat} {parts : List Nat} (h : combine? room parts = some n) :
    n < Nat.pow 0x100 room := by
  fun_induction combine? room parts generalizing n with
  | case1 => simp at h
  | case2 => simp at h
  | case3 room last hlast => simp_all
  | case4 room last hlast => simp at h
  | case5 room first rest hrest ih =>
    obtain ⟨low, hlow, hn⟩ := Option.bind_eq_some_iff.mp h
    have hlt := ih hlow
    split at hn
    · simp only [Option.some.injEq] at hn
      have hmul : first * Nat.pow 0x100 room ≤ 0xff * Nat.pow 0x100 room :=
        Nat.mul_le_mul_right _ (by omega)
      change n < Nat.pow 0x100 room * 0x100
      omega
    · simp at hn

/-- Reads a host of at most four parts. -/
def ofText? (host : List Char) : Option Ipv4 := do
  return ⟨UInt32.ofNat (← combine? 4 (← (parts host).mapM part?))⟩

end Ipv4
end DutyRelay
