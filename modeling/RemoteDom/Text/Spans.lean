/-! Sets and maps of code points, given by the places where something changes. -/

namespace RemoteDom.Text

/-- Whether a number is in a set. Given are the numbers at which membership changes, in increasing
order; a member has an odd number of them at or below it. -/
def isWithin (changes : List Nat) (n : Nat) : Bool :=
  (changes.takeWhile (· ≤ n)).length % 2 == 1

/-- The value that holds at a number. Given are the numbers from which on a value holds, in
increasing order. -/
def valueAt {α : Type} (before : α) : List (Nat × α) → Nat → α
  | [], _ => before
  | (start, value) :: rest, n => if n < start then before else valueAt value rest n

/-- Evenly spaced code points whose images lie equally far from each of them: the first code point,
how many there are, the distance between two of them, and how far their images lie from them. -/
structure Run where
  first : Nat
  count : Nat
  stride : Nat
  shift : Int

namespace Run

def covers (run : Run) (n : Nat) : Bool :=
  run.first ≤ n && n < run.first + run.count * run.stride && (n - run.first) % run.stride == 0

/-- The image of a character, if one of the runs covers it. -/
def image? (runs : List Run) (c : Char) : Option Char :=
  (runs.find? (·.covers c.toNat)).map fun run => Char.ofNat (Int.ofNat c.toNat + run.shift).toNat

end Run

/-- Entries for consecutive code points, the first of which is given. -/
structure Block (α : Type) where
  first : Nat
  entries : List α

namespace Block

variable {α : Type}

def entry? (blocks : List (Block α)) (n : Nat) : Option α :=
  blocks.findSome? fun block => if block.first ≤ n then block.entries[n - block.first]? else none

def find? (blocks : List (Block α)) (test : α → Bool) : Option Nat :=
  blocks.findSome? fun block => (block.entries.findIdx? test).map (block.first + ·)

end Block

theorem valueAt_of_lt {α : Type} {before value : α} {start n : Nat} {rest : List (Nat × α)}
    (early : n < start) : valueAt before ((start, value) :: rest) n = before := by
  simp [valueAt, early]

theorem valueAt_of_le {α : Type} {before value : α} {start n : Nat} {rest : List (Nat × α)}
    (late : start ≤ n) : valueAt before ((start, value) :: rest) n = valueAt value rest n := by
  simp [valueAt, Nat.not_lt.mpr late]

end RemoteDom.Text
