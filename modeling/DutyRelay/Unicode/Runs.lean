import DutyRelay.Text

/-!
# Tables over code points

Properties of characters are the same over long runs of code points. A table lists the runs in order,
each with what holds in it, and is searched by halving. Tables are written as text: words that are set
apart by blanks and line ends, one for each run, with a letter in front and hexadecimal numbers behind
it. All tables are those of version 17 of the standard.

## Contents
- `Runs.Entry`, `Runs.entries`: the words of a table.
- `Runs`, `Runs.ofText`: a table.
- `Runs.find?`, `Runs.value?`: the run that holds a code point.
-/

namespace DutyRelay.Unicode

/-- A run of code points: the first of them, and what holds in the run. -/
structure Run (α : Type) where
  first : Nat
  value : α

/-- Runs in rising order; each ends where the next begins. -/
structure Runs (α : Type) where
  runs : Array (Run α)

namespace Runs

variable {α : Type}

/-! ## Reading -/

/-- A word of a table: a letter, and numbers with dots in between. -/
structure Entry where
  kind : Char
  numbers : List Nat
deriving DecidableEq, Repr

/-- Reads a word; what is no number counts as zero. -/
def entry? : List Char → Option Entry
  | [] => none
  | kind :: numbers =>
    some ⟨kind, (Text.pieces (· = '.') numbers).map fun digits => (Text.numeral? 16 digits).getD 0⟩

/-- The words of a table. -/
def entries (text : String) : List Entry := (Text.pieces Char.isWhitespace text.toList).filterMap entry?

/-- The runs that entries stand for, when `read` says how long the run of an entry is and what holds
in it. -/
def ofEntries (read : Entry → Nat × α) (entries : List Entry) : Runs α :=
  let step (table : Array (Run α) × Nat) (entry : Entry) : Array (Run α) × Nat :=
    let (length, value) := read entry
    (table.1.push ⟨table.2, value⟩, table.2 + length)
  ⟨(entries.foldl step (#[], 0)).1⟩

/-- The table that text stands for. -/
def ofText (read : Entry → Nat × α) (text : String) : Runs α := ofEntries read (entries text)

/-! ## Searching -/

/-- The position of the last run from `low` on and below `high` that does not begin behind the code
point, when the run at `low` does not. -/
def locate (runs : Array (Run α)) (code low high : Nat) : Nat :=
  if high ≤ low + 1 then low
  else
    let middle := (low + high) / 2
    if (runs[middle]?).any (·.first ≤ code) then locate runs code middle high
    else locate runs code low middle
termination_by high - low

theorem locate_lt (runs : Array (Run α)) (code low high : Nat) (h : low < high) :
    locate runs code low high < high := by
  fun_induction locate runs code low high with
  | case1 => exact h
  | case2 low high hlong middle hfirst ih =>
    have hle : middle < high := by omega
    exact ih hle
  | case3 low high hlong middle hfirst ih =>
    have hlt : low < middle := by omega
    have := ih hlt
    omega

/-- The run that holds a code point. -/
def find? (table : Runs α) (code : Nat) : Option (Run α) :=
  table.runs[locate table.runs code 0 table.runs.size]?

/-- What holds at a code point. -/
def value? (table : Runs α) (code : Nat) : Option α := (table.find? code).map (·.value)

end Runs
end DutyRelay.Unicode
