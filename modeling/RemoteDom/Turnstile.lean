/-! A turnstile lets a bounded number of visitors in, first come first served. Once it is closed it lets
nobody in, but whoever is inside may finish. -/

namespace RemoteDom

structure Turnstile where
  free : Nat
  /-- Those who were let in and have not left. -/
  inside : List Nat
  /-- Those who wait, the first in line first. -/
  line : List Nat
  closed : Bool
deriving DecidableEq, Repr

namespace Turnstile

def ofPlaces (places : Nat) : Turnstile := ⟨places, [], [], false⟩

inductive Reply where
  | admitted
  | refused
  | wait
deriving DecidableEq, Repr

/-- Lets the first in line in if there is a place, and otherwise keeps the place free. -/
def passOn (turnstile : Turnstile) : Turnstile :=
  match turnstile.line with
  | [] => { turnstile with free := turnstile.free + 1 }
  | visitor :: line => { turnstile with inside := visitor :: turnstile.inside, line }

/-- A visitor arrives: it is let in if there is a place, and stands in line otherwise. -/
def arrive (turnstile : Turnstile) (visitor : Nat) : Reply × Turnstile :=
  if turnstile.closed then (.refused, turnstile)
  else
    match turnstile.free with
    | free + 1 => (.admitted, { turnstile with free, inside := visitor :: turnstile.inside })
    | 0 => (.wait, { turnstile with line := turnstile.line ++ [visitor] })

/-- A visitor leaves, whether it was let in or stood in line. -/
def leave (turnstile : Turnstile) (visitor : Nat) : Turnstile :=
  if turnstile.inside.contains visitor then
    passOn { turnstile with inside := turnstile.inside.erase visitor }
  else { turnstile with line := turnstile.line.erase visitor }

def ask (turnstile : Turnstile) (visitor : Nat) : Reply × Turnstile :=
  if turnstile.closed then (.refused, turnstile.leave visitor)
  else if turnstile.inside.contains visitor then (.admitted, turnstile)
  else (.wait, turnstile)

def hasNewsFor (turnstile : Turnstile) (visitor : Nat) : Bool :=
  turnstile.closed || turnstile.inside.contains visitor

def close (turnstile : Turnstile) : Turnstile := { turnstile with line := [], closed := true }

end Turnstile

end RemoteDom
