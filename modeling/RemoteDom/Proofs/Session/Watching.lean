import RemoteDom.Proofs.Connection.Delivery
import RemoteDom.Proofs.Session.SingleFlight
import RemoteDom.Proofs.Session.Sources

/-! The watcher beside the callers. Events that say that sessions or targets are gone are received into two streams,
and the watcher takes them from there in its own time, while answers go to the callers. A session whose caller has
stored it, and assigned the target to it, when the watcher heeds such an event is forgotten for good. One that is yet
to be stored is not. -/

namespace RemoteDom

private theorem Streams.exists_take_of_yielded {streams : Streams} {id : Nat} {moves : List StreamMove} {event : Event}
    (member : event ∈ streams.yielded id moves) :
    ∃ first rest, moves = first ++ .take id :: rest ∧ ((streams.runFrom first).take id).1 = .event event := by
  induction moves generalizing streams with
  | nil => cases member
  | cons move moves ih =>
      rw [yielded, taken, List.filterMap_append, List.mem_append] at member
      rcases member with now | later
      · split at now
        next same =>
          subst same
          refine ⟨[], moves, rfl, ?_⟩
          show (streams.take id).1 = .event event
          cases given : (streams.take id).1 <;> simp_all [Taken.event?]
        next => cases now
      · obtain ⟨first, rest, rfl, taken⟩ := ih later
        exact ⟨move :: first, rest, rfl, taken⟩

structure Lookout where
  sessions : Sessions
  streams : Streams

inductive LookoutMove where
  | caller (move : SessionMove)
  | receive (event : Event)
  | heed (stream : Nat)

namespace LookoutMove

def streamMove? : LookoutMove → Option StreamMove
  | .caller _ => none
  | .receive event => some (.receive event)
  | .heed stream => some (.take stream)

end LookoutMove

namespace Lookout

/-- The stream of sessions that were detached, and that of targets that were destroyed. -/
def detachments : Subscription := ⟨1, Event.detachedMethod, none⟩

def destructions : Subscription := ⟨2, Event.destroyedMethod, none⟩

def opening : Lookout where
  sessions := .opening
  streams := .run [.subscribe detachments.method none, .subscribe destructions.method none]

/-- What a move means for the sessions. Nobody but the watcher tells them of events. -/
def sessionMove? (lookout : Lookout) : LookoutMove → Option SessionMove
  | .caller (.event _) | .receive _ => none
  | .caller move => some move
  | .heed stream => (lookout.streams.take stream).1.event?.map .event

def step (lookout : Lookout) (move : LookoutMove) : Lookout where
  sessions := lookout.sessions.runFrom (lookout.sessionMove? move).toList
  streams := lookout.streams.runFrom move.streamMove?.toList

def runFrom (lookout : Lookout) (moves : List LookoutMove) : Lookout := moves.foldl step lookout

def run (moves : List LookoutMove) : Lookout := opening.runFrom moves

def sessionMoves (lookout : Lookout) : List LookoutMove → List SessionMove
  | [] => []
  | move :: moves => (lookout.sessionMove? move).toList ++ (lookout.step move).sessionMoves moves

/-- All events that were received are heeded, and all sessions that were granted are stored. -/
structure Settled (lookout : Lookout) : Prop where
  detachments : lookout.streams.remaining detachments.id = []
  destructions : lookout.streams.remaining destructions.id = []
  unowed : lookout.sessions.owed = []

instance (lookout : Lookout) : Decidable lookout.Settled :=
  decidable_of_iff (_ ∧ _ ∧ _) ⟨fun ⟨first, second, third⟩ => ⟨first, second, third⟩,
    fun ⟨first, second, third⟩ => ⟨first, second, third⟩⟩

variable {lookout : Lookout} {moves : List LookoutMove}

@[simp]
theorem runFrom_cons (lookout : Lookout) (move : LookoutMove) (moves : List LookoutMove) :
    lookout.runFrom (move :: moves) = (lookout.step move).runFrom moves := rfl

theorem run_append (first second : List LookoutMove) : run (first ++ second) = (run first).runFrom second :=
  List.foldl_append

private theorem sessions_runFrom (lookout : Lookout) (moves : List LookoutMove) :
    (lookout.runFrom moves).sessions = lookout.sessions.runFrom (lookout.sessionMoves moves) := by
  induction moves generalizing lookout with
  | nil => rfl
  | cons move moves ih => rw [runFrom_cons, ih, sessionMoves, Sessions.runFrom_append]; rfl

theorem streams_runFrom (lookout : Lookout) (moves : List LookoutMove) :
    (lookout.runFrom moves).streams = lookout.streams.runFrom (moves.filterMap LookoutMove.streamMove?) := by
  induction moves generalizing lookout with
  | nil => rfl
  | cons move moves ih =>
      rw [runFrom_cons, ih]
      cases move <;> rfl

private theorem sessionMoves_append (lookout : Lookout) (first second : List LookoutMove) :
    lookout.sessionMoves (first ++ second) =
      lookout.sessionMoves first ++ (lookout.runFrom first).sessionMoves second := by
  induction first generalizing lookout with
  | nil => rfl
  | cons move moves ih => simp only [List.cons_append, sessionMoves, ih, List.append_assoc, runFrom_cons]

/-! The client's own watcher. -/

theorem streams_opening (setting : Rehearsal.Setting) (rules : List Rehearsal.Rule) (places : Nat) :
    (Rehearsal.Stage.opening setting rules places).connection.streams = opening.streams ∧
      (Rehearsal.Stage.opening setting rules places).watched = some (detachments.id, destructions.id) := ⟨rfl, rfl⟩

/-- The watcher of a client heeds an event of one of its streams, or stops. -/
theorem watcherStep_cases (stage : Rehearsal.Stage) (callers : List Caller) {gone destroyed : Nat}
    (watched : stage.watched = some (gone, destroyed)) :
    Rehearsal.World.watcherStep stage = { stage with watched := none } ∨
      ∃ stream ∈ [gone, destroyed],
        let heeded := step ⟨⟨stage.table, stage.attachTurn, callers⟩, stage.connection.streams⟩ (.heed stream)
        (Rehearsal.World.watcherStep stage).table = heeded.sessions.table ∧
          (Rehearsal.World.watcherStep stage).connection.streams = heeded.streams := by
  have heeds (stream : Nat) (event : Event) (streams : Streams)
      (taken : stage.connection.streams.take stream = (.event event, streams)) :
      let heeded := step ⟨⟨stage.table, stage.attachTurn, callers⟩, stage.connection.streams⟩ (.heed stream)
      Rehearsal.World.applyNotice stage.table event.notice = heeded.sessions.table ∧ streams = heeded.streams := by
    simp [step, sessionMove?, LookoutMove.streamMove?, taken, Streams.Taken.event?, Streams.runFrom, Streams.step,
      Sessions.step]
  unfold Rehearsal.World.watcherStep
  rw [watched]
  simp only
  split
  next event streams taken => exact .inr ⟨gone, by simp, heeds gone event streams taken⟩
  next =>
    split
    next event streams taken => exact .inr ⟨destroyed, by simp, heeds destroyed event streams taken⟩
    next => exact .inl rfl

/-! What is received is heeded. -/

private theorem heeded_of_yielded {stream : Nat} {event : Event}
    (member : event ∈ lookout.streams.yielded stream (moves.filterMap LookoutMove.streamMove?)) :
    ∃ first rest, moves = first ++ .heed stream :: rest ∧
      ((lookout.runFrom first).streams.take stream).1 = .event event := by
  obtain ⟨first, rest, parts, taken⟩ := Streams.exists_take_of_yielded member
  obtain ⟨earlier, later, rfl, rfl, onward⟩ := List.filterMap_eq_append_iff.mp parts
  obtain ⟨silent, move, rest, rfl, none, takes, -⟩ := List.filterMap_eq_cons_iff.mp onward
  have same : (lookout.runFrom (earlier ++ silent)).streams = (lookout.runFrom earlier).streams := by
    have nothing : silent.filterMap LookoutMove.streamMove? = [] := List.filterMap_eq_nil_iff.mpr none
    rw [streams_runFrom, streams_runFrom, List.filterMap_append, nothing, List.append_nil]
  cases move with
  | heed id =>
      obtain rfl := StreamMove.take.inj (Option.some.inj takes)
      exact ⟨earlier ++ silent, rest, by simp, by rw [same, streams_runFrom, taken]⟩
  | caller | receive => cases takes

theorem ended_runFrom (lookout : Lookout) (moves : List LookoutMove) :
    (lookout.runFrom moves).streams.ended = lookout.streams.ended := by
  have never : .close ∉ moves.filterMap LookoutMove.streamMove? := by
    intro member
    obtain ⟨move, -, closes⟩ := List.mem_filterMap.mp member
    cases move <;> cases closes
  rw [streams_runFrom, Streams.ended_runFrom, decide_eq_false never, Bool.or_false]

private theorem holds_runFrom {subscription : Subscription} {received : List Event}
    (holds : lookout.streams.Holds subscription received) (moves : List LookoutMove) :
    ∃ later, (lookout.runFrom moves).streams.Holds subscription later ∧
      lookout.streams.yielded subscription.id (moves.filterMap LookoutMove.streamMove?) ++ later = received ++
        (if lookout.streams.ended then [] else StreamMove.heard (moves.filterMap LookoutMove.streamMove?)).filter
          fun event => decide (subscription.Concerns event) := by
  rw [streams_runFrom]
  refine holds.runFrom fun member => ?_
  obtain ⟨move, -, drops⟩ := List.mem_filterMap.mp member
  cases move <;> cases drops

/-- Of an event that a stream is meant to receive, none is left when the stream is empty: the watcher has heeded it. -/
private theorem heeded_of_received {subscription : Subscription} {before after : List LookoutMove} {event : Event}
    (standing : ∃ received, opening.streams.Holds subscription received) (concerns : subscription.Concerns event)
    (emptied : (run (before ++ .receive event :: after)).streams.remaining subscription.id = []) :
    ∃ first rest, after = first ++ .heed subscription.id :: rest ∧
      ((run (before ++ .receive event :: first)).streams.take subscription.id).1 = .event event := by
  obtain ⟨received, holds⟩ := standing
  obtain ⟨earlier, there, -⟩ := holds_runFrom holds before
  obtain ⟨later, last, parts⟩ := holds_runFrom there (.receive event :: after)
  rw [run_append, show run before = opening.runFrom before from rfl] at emptied
  obtain rfl : later = [] := last.remaining.symm.trans emptied
  have running : (opening.runFrom before).streams.ended = false := ended_runFrom opening before
  have member : event ∈ (opening.runFrom before).streams.yielded subscription.id
      ((LookoutMove.receive event :: after).filterMap LookoutMove.streamMove?) := by
    rw [List.append_nil] at parts
    rw [parts, running]
    exact List.mem_append_right _ (List.mem_filter.mpr ⟨List.mem_cons_self, decide_eq_true concerns⟩)
  obtain ⟨first, rest, same, taken⟩ := heeded_of_yielded member
  cases first with
  | nil => cases same
  | cons move first =>
      obtain ⟨rfl, rfl⟩ := List.cons.inj same
      exact ⟨first, rest, rfl, by rw [run_append]; exact taken⟩

private theorem concerns_of_revokes {event : Event} {grant : Grant} (revokes : event.notice.Revokes grant) :
    detachments.Concerns event ∨ destructions.Concerns event := by
  unfold Event.notice at revokes
  split at revokes
  · cases revokes
  · split at revokes
    next same => exact .inl ⟨same, nofun⟩
    next =>
      split at revokes
      next same => exact .inr ⟨same, nofun⟩
      next => cases revokes

end Lookout

namespace Sessions

variable {sessions : Sessions} {place : Nat} {target : TargetId} {parent : SessionId}
  {rest : ClientProgram (Except Error (Option Session))}

private theorem Orderly.within_of_vacant (orderly : sessions.Orderly) (vacant : sessions.turn.inside = [])
    (free : sessions.table.forTarget? target = none)
    (live : sessions.live? place = some ⟨.attach target parent, rest, false, false⟩)
    (runs : (.entering : CallPhase (.attach target parent)).Runs rest) :
    (sessions.step (.proceed place)).Within place (.lookingAgain : CallPhase (.attach target parent)) false := by
  obtain ⟨next, rfl, onward⟩ := runs.of_step rfl
  have admitted : sessions.turn.arrive place = (.admitted, ⟨0, [place], [], false⟩) := by
    have single := orderly.single
    generalize sessions.turn = turn at single vacant
    cases single with
    | vacant => rfl
    | taken => cases vacant
  simp only [Sessions.step, live, attempt, Bool.false_eq_true, if_false, admitted, reduceCtorEq]
  exact ⟨⟨next (), (live?_set live _ _ _ place).trans (if_pos rfl), onward ()⟩, List.mem_singleton_self place, free⟩

private theorem look_in_vain (free : sessions.table.forTarget? target = none)
    {next : Option Session → ClientProgram (Except Error (Option Session))}
    (live : sessions.live? place = some ⟨.attach target parent, .act (.sessionForTarget target) next, false, false⟩) :
    (sessions.step (.proceed place)).live? place = some ⟨.attach target parent, next none, false, false⟩ ∧
      (sessions.step (.proceed place)).turn = sessions.turn ∧
      (sessions.step (.proceed place)).table = sessions.table := by
  simp only [step, live, attempt, free]
  exact ⟨(live?_set live _ _ _ place).trans (if_pos rfl), rfl, rfl⟩

private theorem Orderly.asks_of_vacant (orderly : sessions.Orderly) (vacant : sessions.turn.inside = [])
    (free : sessions.table.forTarget? target = none) (parent : SessionId) :
    (sessions.runFrom [.call (.attach target parent), .proceed sessions.callers.length,
      .proceed sessions.callers.length, .proceed sessions.callers.length]).sends?
        (.proceed sessions.callers.length) = some (parent, target) := by
  generalize new : sessions.callers.length = place
  obtain ⟨next, starts, onward⟩ := (CallPhase.runs_opening (.attach target parent)).of_step rfl
  have called : (sessions.step (.call (.attach target parent))).live? place =
      some ⟨.attach target parent, .act (.sessionForTarget target) next, false, false⟩ := by
    rw [← starts, Sessions.step, live?_call, if_pos new.symm]
    rfl
  have free : (sessions.step (.call (.attach target parent))).table.forTarget? target = none := free
  obtain ⟨entering, turn, table⟩ := look_in_vain free called
  have orderly := (orderly.step (.call (.attach target parent))).step (.proceed place)
  have within := orderly.within_of_vacant (turn ▸ vacant) (table ▸ free) entering (onward none)
  exact within.lookAgain.sends?

end Sessions

namespace Lookout

def heeds? (lookout : Lookout) : LookoutMove → Option Event
  | .heed stream => (lookout.streams.take stream).1.event?
  | _ => none

/-- Whenever the watcher heeds the event, it does not miss the session of that name. -/
def InTime (event : Event) (id : SessionId) : Lookout → List LookoutMove → Prop
  | _, [] => True
  | lookout, move :: moves =>
      (lookout.heeds? move = some event → id ∉ lookout.sessions.missed event.notice) ∧
        InTime event id (lookout.step move) moves

instance decidableInTime (event : Event) (id : SessionId) :
    (lookout : Lookout) → (moves : List LookoutMove) → Decidable (InTime event id lookout moves)
  | _, [] => .isTrue trivial
  | lookout, move :: moves =>
      have := decidableInTime event id (lookout.step move) moves
      inferInstanceAs (Decidable (_ ∧ _))

theorem InTime.met {event : Event} {id : SessionId} {first rest : List LookoutMove} {stream : Nat}
    (inTime : InTime event id lookout (first ++ .heed stream :: rest))
    (taken : ((lookout.runFrom first).streams.take stream).1 = .event event) :
    id ∉ (lookout.runFrom first).sessions.missed event.notice := by
  induction first generalizing lookout with
  | nil =>
      refine inTime.1 ?_
      simp only [heeds?, show (lookout.streams.take stream).1 = _ from taken, Streams.Taken.event?]
  | cons move first ih => exact ih inTime.2 taken

private theorem sessions_run (moves : List LookoutMove) : (run moves).sessions = .run (opening.sessionMoves moves) :=
  sessions_runFrom opening moves

private theorem bygone_of_heeded {first rest : List LookoutMove} {stream : Nat} {event : Event} {grant : Grant}
    (fresh : Sessions.Fresh .opening (opening.sessionMoves (first ++ .heed stream :: rest)))
    (granted : grant ∈ Sessions.opening.grants (opening.sessionMoves first)) (revokes : event.notice.Revokes grant)
    (taken : ((run first).streams.take stream).1 = .event event) 
    (met : grant.id ∉ (run first).sessions.missed event.notice) :
    (run (first ++ .heed stream :: rest)).sessions.Bygone grant.id := by
  have heeds : (opening.runFrom first).sessionMove? (.heed stream) = some (.event event) := by
    simp only [sessionMove?, show ((opening.runFrom first).streams.take stream).1 = _ from taken,
      Streams.Taken.event?, Option.map_some]
  rw [sessions_run] at met ⊢
  simp only [sessionMoves_append, sessionMoves, heeds, Option.toList_some, List.singleton_append] at fresh ⊢
  exact Sessions.bygone_run fresh granted revokes met

theorem standing {subscription : Subscription} (among : subscription = detachments ∨ subscription = destructions) :
    ∃ received, opening.streams.Holds subscription received := by
  rcases among with rfl | rfl
  · exact ⟨[], rfl⟩
  · exact ⟨[], rfl⟩

/-- Once everything is heeded, the event that revokes a grant is, and in time. -/
private theorem bygone_of_received {before after : List LookoutMove} {event : Event} {grant : Grant}
    (fresh : Sessions.Fresh .opening (opening.sessionMoves (before ++ .receive event :: after)))
    (granted : grant ∈ Sessions.opening.grants (opening.sessionMoves before)) (revokes : event.notice.Revokes grant)
    (inTime : InTime event grant.id (run (before ++ [.receive event])) after)
    (settled : (run (before ++ .receive event :: after)).Settled) :
    (run (before ++ .receive event :: after)).sessions.Bygone grant.id := by
  obtain ⟨subscription, among, concerns, emptied⟩ : ∃ subscription,
      (subscription = detachments ∨ subscription = destructions) ∧ subscription.Concerns event ∧
        (run (before ++ .receive event :: after)).streams.remaining subscription.id = [] := by
    rcases concerns_of_revokes revokes with meant | meant
    · exact ⟨detachments, .inl rfl, meant, settled.detachments⟩
    · exact ⟨destructions, .inr rfl, meant, settled.destructions⟩
  obtain ⟨first, rest, rfl, taken⟩ := heeded_of_received (standing among) concerns emptied
  have same : (run (before ++ [.receive event])).runFrom first = run (before ++ .receive event :: first) := by
    simp [← run_append]
  have met := inTime.met (same ▸ taken)
  have earlier : grant ∈ Sessions.opening.grants (opening.sessionMoves (before ++ .receive event :: first)) := by
    rw [sessionMoves_append, Sessions.grants_append]
    exact List.mem_append_left _ granted
  rw [← List.cons_append, ← List.append_assoc] at fresh ⊢
  exact bygone_of_heeded fresh earlier revokes taken (same ▸ met)

theorem orderly_run (moves : List LookoutMove) : (run moves).sessions.Orderly := by
  rw [sessions_run]
  exact Sessions.orderly_run _

/-- A session that the browser granted before it said that the session or its target is gone: if its caller stored it
before the watcher heeds that, and assigned the target to it if it is the target that is gone, then it is not in the
table any more once everything is heeded, whatever happens besides. The target has no session then but one that the
browser granted anew, and if it has none, whoever attaches to it when nobody else does asks the browser. -/
theorem detach_heeded_in_time {before after : List LookoutMove} {event : Event} {grant : Grant}
    (fresh : Sessions.Fresh .opening (opening.sessionMoves (before ++ .receive event :: after)))
    (granted : grant ∈ Sessions.opening.grants (opening.sessionMoves before))
    (revokes : event.notice.Revokes grant)
    (inTime : InTime event grant.id (run (before ++ [.receive event])) after)
    (settled : (run (before ++ .receive event :: after)).Settled) :
    let last := (run (before ++ .receive event :: after)).sessions
    (∀ session ∈ last.table.stored, session.id ≠ grant.id) ∧
      (∀ session, last.table.forTarget? grant.target = some session →
        ∃ other ∈ Sessions.opening.grants (opening.sessionMoves (before ++ .receive event :: after)),
          other.session = session ∧ other.id ≠ grant.id) ∧
      (last.table.forTarget? grant.target = none → last.turn.inside = [] → ∀ parent,
        (last.runFrom [.call (.attach grant.target parent), .proceed last.callers.length,
          .proceed last.callers.length, .proceed last.callers.length]).sends? (.proceed last.callers.length) =
            some (parent, grant.target)) := by
  intro last
  have bygone : last.Bygone grant.id := bygone_of_received fresh granted revokes inTime settled
  refine ⟨bygone.absent, fun session known => ?_, fun free vacant parent =>
    (orderly_run _).asks_of_vacant vacant free parent⟩
  obtain ⟨name, -, found⟩ := Option.bind_eq_some_iff.mp known
  have member := List.mem_of_find?_eq_some found
  have sourced := Sessions.sourced_run (opening.sessionMoves (before ++ .receive event :: after))
  rw [← sessions_run] at sourced
  obtain ⟨other, inside, rfl⟩ := sourced.stored session member
  exact ⟨other, inside, rfl, bygone.absent _ member⟩

def pendingAttach : List LookoutMove :=
  let granted : Json := .object [("sessionId", .string "S1")]
  [.caller (.call (.attach ⟨"T1"⟩ .topLevel)), .caller (.proceed 0), .caller (.proceed 0), .caller (.proceed 0),
    .caller (.proceed 0), .caller (.answer 0 (.ok granted))]

def sessionGone : Event :=
  ⟨Event.detachedMethod, .object [("sessionId", .string "S1"), ("targetId", .string "T1")], .topLevel⟩

theorem detach_heeded_in_time_pendingAttach :
    let after : List LookoutMove :=
      [.caller (.proceed 0), .caller (.proceed 0), .heed detachments.id, .caller (.proceed 0)]
    let last := (run (pendingAttach ++ .receive sessionGone :: after)).sessions
    Sessions.Fresh .opening (opening.sessionMoves (pendingAttach ++ .receive sessionGone :: after)) ∧
      ⟨0, ⟨"T1"⟩, .topLevel, ⟨"S1"⟩⟩ ∈ Sessions.opening.grants (opening.sessionMoves pendingAttach) ∧
      InTime sessionGone ⟨"S1"⟩ (run (pendingAttach ++ [.receive sessionGone])) after ∧
      (run (pendingAttach ++ .receive sessionGone :: after)).Settled ∧
      (∀ session ∈ last.table.stored, session.id ≠ ⟨"S1"⟩) ∧
      (last.runFrom [.call (.attach ⟨"T1"⟩ ⟨"A"⟩), .proceed 1, .proceed 1, .proceed 1]).sends? (.proceed 1) =
        some (⟨"A"⟩, ⟨"T1"⟩) := by
  intro after last
  have fresh : Sessions.Fresh .opening (opening.sessionMoves (pendingAttach ++ .receive sessionGone :: after)) := by
    decide
  have granted : ⟨0, ⟨"T1"⟩, .topLevel, ⟨"S1"⟩⟩ ∈ Sessions.opening.grants (opening.sessionMoves pendingAttach) := by
    decide
  have inTime : InTime sessionGone ⟨"S1"⟩ (run (pendingAttach ++ [.receive sessionGone])) after := by decide
  have settled : (run (pendingAttach ++ .receive sessionGone :: after)).Settled := by decide +kernel
  obtain ⟨absent, -, asks⟩ := detach_heeded_in_time fresh granted rfl inTime settled
  exact ⟨fresh, granted, inTime, settled, absent, asks (by decide +kernel) (by decide +kernel) ⟨"A"⟩⟩

/-- If the watcher is first, the event is heeded and the session is stored after it: the table keeps a session that is
gone, and whoever attaches to the target is given that session without a question to the browser. -/
theorem detach_lost_to_pending_attach :
    let after : List LookoutMove :=
      [.heed detachments.id, .caller (.proceed 0), .caller (.proceed 0), .caller (.proceed 0)]
    let last := (run (pendingAttach ++ .receive sessionGone :: after)).sessions
    let lost : Session := .attached ⟨"T1"⟩ .topLevel ⟨"S1"⟩
    Sessions.Fresh .opening (opening.sessionMoves (pendingAttach ++ .receive sessionGone :: after)) ∧
      ⟨0, ⟨"T1"⟩, .topLevel, ⟨"S1"⟩⟩ ∈ Sessions.opening.grants (opening.sessionMoves pendingAttach) ∧
      sessionGone.notice = .detached ⟨"S1"⟩ (some ⟨"T1"⟩) ∧
      (run (pendingAttach ++ .receive sessionGone :: after)).Settled ∧
      lost ∈ last.table.stored ∧ last.turn.inside = [] ∧
      ((last.runFrom [.call (.attach ⟨"T1"⟩ ⟨"A"⟩), .proceed 1]).live? 1).bind (·.rest.settled?) =
        some (.ok (some lost)) := by
  refine ⟨by decide, by decide, by decide, by decide +kernel, by decide +kernel, by decide +kernel, rfl⟩

end Lookout

end RemoteDom
