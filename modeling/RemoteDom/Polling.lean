import RemoteDom.Error

/-! Waiting for something by looking again and again until a deadline. -/

namespace RemoteDom

/-- How long to wait for something and how long to pause between two looks, in milliseconds. -/
structure Patience where
  timeout : Nat
  interval : Nat
deriving DecidableEq, Repr

namespace Patience

def usual : Patience := ⟨10000, 250⟩

/-- The timeout as it is reported: it stays within sixty-four bits. -/
def shownTimeout (patience : Patience) : Nat := min patience.timeout ((1 <<< 64) - 1)

/-- How many looks fit into the time at most, the first and the last included. Without a pause between
looks there is no such number. -/
def looks (patience : Patience) : Nat :=
  if patience.interval = 0 then 1 <<< 64 else patience.timeout / patience.interval + 2

end Patience

class Clock (m : Type → Type) where
  now : m Nat
  sleep : Nat → m Unit

instance {m : Type → Type} {ε : Type} [Monad m] [Clock m] : Clock (ExceptT ε m) where
  now := ExceptT.lift Clock.now
  sleep time := ExceptT.lift (Clock.sleep time)

instance {m : Type → Type} {σ : Type} [Monad m] [Clock m] : Clock (StateT σ m) where
  now := StateT.lift Clock.now
  sleep time := StateT.lift (Clock.sleep time)

/-- Time that passes only while someone sleeps. -/
abbrev ExactTime := StateM Nat

instance : Clock ExactTime where
  now := get
  sleep time := modify (· + time)

/-- Looks up to `looks` times: until there is something, or until a look ends at the deadline or later.
After a look in vain it pauses, but not beyond the deadline. -/
def lookUntil {m : Type → Type} {α : Type} [Monad m] [Clock m] (deadline interval : Nat)
    (look : m (Option α)) : Nat → m (Option α)
  | 0 => pure none
  | looks + 1 => do
      match ← look with
      | some value => pure (some value)
      | none =>
          let now ← Clock.now
          if deadline ≤ now then pure none
          else do
            Clock.sleep (min interval (deadline - now))
            lookUntil deadline interval look looks

def poll {m : Type → Type} {α : Type} [Monad m] [Clock m] (patience : Patience)
    (look : m (Option α)) : m (Option α) := do
  let start ← Clock.now
  lookUntil (start + patience.timeout) patience.interval look patience.looks

/-- What a look finds in time; it is an error if none does. A look that fails ends the wait. -/
def pollOrFail {m : Type → Type} {α : Type} [Monad m] [Clock m] (operation : String)
    (patience : Patience) (look : ExceptT Error m (Option α)) : ExceptT Error m α := do
  match ← poll patience look with
  | some value => pure value
  | none => throw (.timeout operation patience.shownTimeout)

end RemoteDom
