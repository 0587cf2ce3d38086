import RemoteDom.Rehearsal.World

/-! Rehearsing a turnstile: visitors that come at their times, work for a while and leave. -/

namespace RemoteDom.Rehearsal

structure Visit where
  arrival : Nat
  /-- How long after its arrival the visitor gives up. -/
  patience : Option Nat
  work : Nat
  outcome : Except String Json

/-- A visit from arrival to end. -/
def Visit.perform (visit : Visit) : Acting Shown := do
  Acting.sleep visit.arrival
  let arrived ← Acting.now
  let moment := visit.patience.map (arrived + ·)
  match ← (.act (.enter moment) .done : Acting Entry) with
  | .refused => return .visited none (← Acting.now) (some (.failure .connectionClosed))
  | .gaveUp => return .visited none (← Acting.now) none
  | .admitted ticket =>
      let began ← Acting.now
      let free ← Acting.read fun stage => stage.places.free
      let finished ← (.act (.pause visit.work moment) .done : Acting Bool)
      .act (.leave ticket) fun _ => .done ()
      let ended ← Acting.now
      let result :=
        match visit.outcome with
        | .ok value => Shown.value value
        | .error message => .failure (.script message)
      return .visited (some (began, free)) ended (if finished then some result else none)

/-- Closes the turnstile after some time. -/
def closing (time : Nat) : Acting Shown := do
  Acting.sleep time
  Acting.modify fun stage => { stage with places := stage.places.close }
  return .done

/-- What became of each visitor, and how many places are free in the end. -/
structure VisitReport where
  visits : List Shown
  free : Nat

def World.runOut : Nat → World → World
  | 0, world => world
  | fuel + 1, world =>
      match world.advance with
      | some world => runOut fuel world
      | none => world

def rehearseVisits (places : Nat) (visits : List Visit) (closes : Option Nat) : VisitReport :=
  let setting : Setting := ⟨0, .usual, places⟩
  let empty := World.start (.opening setting [] places) (.done .done)
  let (ids, world) := visits.foldl
    (fun (ids, world) visit =>
      let (id, world) := World.startTask world visit.perform
      (ids ++ [id], world)) (([] : List Nat), empty)
  let world :=
    match closes with
    | some time => (World.startTask world (closing time)).2
    | none => world
  let world := world.runOut World.turnFuel
  let shown := ids.map fun id =>
    match (world.task? id).map Task.progress with
    | some (.finished shown) => shown
    | _ => .done
  ⟨shown, world.stage.places.free⟩

end RemoteDom.Rehearsal
