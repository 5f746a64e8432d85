import DutyRelay.Word

/-!
# Slots and epochs

Time on the chain is counted in slots, and a fixed number of slots makes an epoch. `EpochLength` is
that number, which is never zero, so that every slot lies in exactly one epoch.

## Contents
- `Slot`, `Epoch`, `ValidatorIndex`: counts.
- `EpochLength`: slots per epoch; `epochOf`, `offsetOf`, `firstSlot`, `startSlot`.
- `firstSlot_add_offsetOf`: a slot is the first slot of its epoch and its offset.
-/

namespace DutyRelay

/-- A slot, counted from the start of the chain. -/
abbrev Slot := Nat

/-- An epoch, counted from the start of the chain. -/
abbrev Epoch := Nat

/-- The place of a validator in the registry. -/
abbrev ValidatorIndex := Nat

/-- An epoch that may be absent, as log lines show it. -/
def epochText : Option Epoch → String
  | none => "None"
  | some epoch => "Some(" ++ toString epoch ++ ")"

/-- How many slots make an epoch. -/
@[ext]
structure EpochLength where
  slots : Nat
  slots_pos : 0 < slots
deriving DecidableEq

namespace EpochLength

/-- Slots per epoch where nothing else is asked for. -/
def standard : EpochLength := ⟨32, by decide⟩

instance : Inhabited EpochLength := ⟨standard⟩

/-- The epoch that a slot lies in. -/
def epochOf (length : EpochLength) (slot : Slot) : Epoch := slot / length.slots

/-- How far into its epoch a slot lies. -/
def offsetOf (length : EpochLength) (slot : Slot) : Nat := slot % length.slots

/-- The first slot of an epoch. -/
def firstSlot (length : EpochLength) (epoch : Epoch) : Slot := epoch * length.slots

/-- The first slot of an epoch as a word: an epoch that starts beyond the largest word is said to
start at the largest word. -/
def startSlot (length : EpochLength) (epoch : Epoch) : Slot := Word.satMul epoch length.slots

theorem offsetOf_lt (length : EpochLength) (slot : Slot) : length.offsetOf slot < length.slots :=
  Nat.mod_lt _ length.slots_pos

/-- A slot is the first slot of its epoch and its offset. -/
theorem firstSlot_add_offsetOf (length : EpochLength) (slot : Slot) :
    length.firstSlot (length.epochOf slot) + length.offsetOf slot = slot := by
  simp [firstSlot, epochOf, offsetOf, Nat.div_add_mod']

end EpochLength
end DutyRelay
