import RemoteDom.Json.Basic
import RemoteDom.Polling

/-! Rehearsing a wait: looks that take some time each and find what they are told to find. -/

namespace RemoteDom.Rehearsal

inductive Finding where
  | nothing
  | something (value : Json)
  | failure (message : String)
deriving DecidableEq, Repr

structure Look where
  time : Nat
  finding : Finding
deriving DecidableEq, Repr

/-- The looks that are still to come, and when those of the past began, the latest first. -/
structure Watch where
  looks : List Look
  begun : List Nat
deriving DecidableEq, Repr

/-- Takes the next look; once all are taken, looks find nothing at once. -/
def takeLook : ExceptT Error (StateT Watch ExactTime) (Option Json) := do
  let now ← Clock.now
  let watch ← get
  match watch.looks with
  | [] =>
      set ({ watch with begun := now :: watch.begun } : Watch)
      pure none
  | look :: looks => do
      set (⟨looks, now :: watch.begun⟩ : Watch)
      Clock.sleep look.time
      match look.finding with
      | .nothing => pure none
      | .something value => pure (some value)
      | .failure message => throw (.script message)

/-- How a wait went: its outcome, when each look began, and the time it took. -/
structure WaitReport where
  outcome : Except Error Json
  begun : List Nat
  time : Nat

def rehearseWait (operation : String) (patience : Patience) (looks : List Look) : WaitReport :=
  let ((outcome, watch), time) := ((pollOrFail operation patience takeLook).run.run ⟨looks, []⟩).run 0
  ⟨outcome, watch.begun.reverse, time⟩

end RemoteDom.Rehearsal
