import RemoteDom.Proofs.Connection.Aftermath

/-! What a stream of events gives, over all that can happen to the streams of a connection: the events that it
was meant to receive from its start to its end, in order and each once, whatever becomes of other streams. -/

namespace RemoteDom

inductive StreamMove where
  | subscribe (method : String) (session : Option SessionId)
  | receive (event : Event)
  | take (id : Nat)
  | drop (id : Nat)
  | close
deriving DecidableEq, Repr

/-- What was asked of a stream when it was started. -/
structure Subscription where
  id : Nat
  method : String
  /-- The only session that is asked for, if there is one. -/
  session : Option SessionId
deriving DecidableEq, Repr

namespace Subscription

def Concerns (subscription : Subscription) (event : Event) : Prop :=
  event.method = subscription.method ∧ ∀ only ∈ subscription.session, event.session = only

instance (subscription : Subscription) : DecidablePred subscription.Concerns := fun _ =>
  inferInstanceAs (Decidable (_ ∧ _))

def stream (subscription : Subscription) (received : List Event) (live : Bool) : Stream :=
  ⟨subscription.id, subscription.method, subscription.session, received, live⟩

private theorem wants_stream (subscription : Subscription) (received : List Event) (live : Bool) (event : Event) :
    (subscription.stream received live).wants event = decide (subscription.Concerns event) := by
  obtain ⟨id, method, session⟩ := subscription
  cases session <;> simp [stream, Stream.wants, Concerns, beq_eq_decide, eq_comm]

end Subscription

def Stream.subscription (stream : Stream) : Subscription := ⟨stream.id, stream.method, stream.session⟩

private theorem Stream.wants_eq (stream : Stream) (event : Event) :
    stream.wants event = decide (stream.subscription.Concerns event) :=
  stream.subscription.wants_stream stream.received stream.live event

namespace StreamMove

def heard : List StreamMove → List Event
  | [] => []
  | .close :: _ => []
  | .receive event :: rest => event :: heard rest
  | _ :: rest => heard rest

/-- The streams that are started and not dropped later, numbered from the given number on. -/
def standing (next : Nat) : List StreamMove → List Subscription
  | [] => []
  | .subscribe method session :: rest =>
      (if .drop next ∈ rest then [] else [⟨next, method, session⟩]) ++ standing (next + 1) rest
  | _ :: rest => standing next rest

def isSubscribe : StreamMove → Bool
  | .subscribe _ _ => true
  | _ => false

private theorem standing_snoc (next : Nat) (moves : List StreamMove) (move : StreamMove) :
    standing next (moves ++ [move]) =
      match move with
      | .subscribe method session =>
          standing next moves ++ [⟨next + moves.countP isSubscribe, method, session⟩]
      | .drop id => (standing next moves).filter fun subscription => subscription.id != id
      | _ => standing next moves := by
  induction moves generalizing next with
  | nil => cases move <;> simp [standing]
  | cons first rest ih =>
      cases first with
      | subscribe method session =>
          cases move with
          | subscribe =>
              simp [standing, ih, isSubscribe, List.countP_cons, Nat.add_assoc, Nat.add_comm 1]
          | drop id =>
              by_cases same : next = id
              · subst same
                simp [standing, ih]
              · by_cases dropped : .drop next ∈ rest <;> simp [standing, ih, same, dropped]
          | receive | take | close => simp [standing, ih]
      | receive | take | drop | close =>
          cases move <;> simp [standing, ih, isSubscribe]

private theorem mem_standing {next : Nat} {moves : List StreamMove} {subscription : Subscription}
    (member : subscription ∈ standing next moves) :
    subscription.id < next + moves.countP isSubscribe := by
  induction moves generalizing next with
  | nil => cases member
  | cons move rest ih =>
      cases move with
      | subscribe method session =>
          simp only [List.countP_cons, isSubscribe, if_true]
          rcases List.mem_append.mp member with first | later
          · split at first
            · cases first
            · rw [List.mem_singleton.mp first]
              simp only
              omega
          · have bound := ih later
            omega
      | receive | take | drop | close => exact ih member

end StreamMove

namespace Streams

variable {streams other : Streams} {id : Nat}

def step (streams : Streams) : StreamMove → Streams
  | .subscribe method session => (streams.subscribe method session).2
  | .receive event => (streams.dispatch event).2
  | .take id => (streams.take id).2
  | .drop id => streams.drop id
  | .close => streams.close

def runFrom (streams : Streams) (moves : List StreamMove) : Streams := moves.foldl step streams

def run (moves : List StreamMove) : Streams := empty.runFrom moves

def taken (streams : Streams) (id : Nat) : List StreamMove → List Taken
  | [] => []
  | move :: rest =>
      (if move = .take id then [(streams.take id).1] else []) ++ (streams.step move).taken id rest

def Taken.event? : Taken → Option Event
  | .event oldest => some oldest
  | _ => none

def yielded (streams : Streams) (id : Nat) (moves : List StreamMove) : List Event :=
  (streams.taken id moves).filterMap Taken.event?

@[simp]
theorem runFrom_cons (streams : Streams) (move : StreamMove) (rest : List StreamMove) :
    streams.runFrom (move :: rest) = (streams.step move).runFrom rest := rfl

theorem runFrom_append (streams : Streams) (moves more : List StreamMove) :
    streams.runFrom (moves ++ more) = (streams.runFrom moves).runFrom more := List.foldl_append

theorem run_append (moves more : List StreamMove) : run (moves ++ more) = (run moves).runFrom more :=
  List.foldl_append

theorem run_snoc (moves : List StreamMove) (move : StreamMove) :
    run (moves ++ [move]) = (run moves).step move := run_append moves [move]

private theorem taken_append (streams : Streams) (id : Nat) (moves more : List StreamMove) :
    streams.taken id (moves ++ more) = streams.taken id moves ++ (streams.runFrom moves).taken id more := by
  induction moves generalizing streams with
  | nil => rfl
  | cons move rest ih => simp [taken, ih]

private theorem ended_step (streams : Streams) (move : StreamMove) :
    (streams.step move).ended = (streams.ended || decide (move = .close)) := by
  cases move with
  | subscribe | receive | drop => simp [step, subscribe, dispatch, drop]
  | close => simp [step, close]
  | take id =>
      simp only [step, take]
      split
      · simp
      · split <;> simp

theorem ended_runFrom (streams : Streams) (moves : List StreamMove) :
    (streams.runFrom moves).ended = (streams.ended || decide (.close ∈ moves)) := by
  induction moves generalizing streams with
  | nil => simp [runFrom]
  | cons move rest ih =>
      rw [runFrom_cons, ih, ended_step]
      simp [Bool.or_assoc, eq_comm, Bool.decide_or]

/-! What each operation does to a stream that is looked up. -/

private theorem get?_dispatch (streams : Streams) (event : Event) (id : Nat) :
    (streams.dispatch event).2.get? id = (streams.get? id).map (Stream.push · event) := by
  unfold get? dispatch
  rw [List.find?_map]
  congr 2
  funext stream
  simp only [Function.comp, Stream.push]
  split <;> rfl

private theorem get?_close (streams : Streams) (id : Nat) :
    streams.close.get? id = (streams.get? id).map fun stream => { stream with live := false } := by
  unfold get? close
  rw [List.find?_map]
  rfl

/-! One stream. -/

/-- The stream of a subscription is there, with events that were received and not yet taken. It is open until
all streams end. -/
def Holds (streams : Streams) (subscription : Subscription) (received : List Event) : Prop :=
  streams.get? subscription.id = some (subscription.stream received !streams.ended)

namespace Holds

variable {subscription : Subscription} {received : List Event}

theorem remaining (holds : streams.Holds subscription received) :
    streams.remaining subscription.id = received := by
  simp [Streams.remaining, show streams.get? subscription.id = _ from holds, Subscription.stream]

theorem fst_take (holds : streams.Holds subscription received) :
    (streams.take subscription.id).1 =
      (received.head?.map .event).getD (if streams.ended then .ended else .pending) := by
  unfold take
  rw [show streams.get? subscription.id = _ from holds]
  cases received with
  | nil => cases streams.ended <;> rfl
  | cons oldest rest => rfl

theorem step (holds : streams.Holds subscription received) {move : StreamMove}
    (kept : move ≠ .drop subscription.id) :
    ∃ later, (streams.step move).Holds subscription later ∧
      streams.yielded subscription.id [move] ++ later = received ++
        (if streams.ended then [] else StreamMove.heard [move]).filter
          fun event => decide (subscription.Concerns event) := by
  have found : streams.get? subscription.id = _ := holds
  have stays : (streams.step move).ended = _ := streams.ended_step move
  cases move with
  | subscribe method session =>
      refine ⟨received, ?_, by simp [yielded, taken, StreamMove.heard]⟩
      rw [Holds, stays, Streams.step, get?_subscribe, found]
      simp
  | receive event =>
      refine ⟨received ++ if !streams.ended && decide (subscription.Concerns event) then [event] else [],
        ?_, ?_⟩
      · rw [Holds, stays, Streams.step, get?_dispatch, found]
        simp only [Option.map_some, Stream.push, Stream.receives, Subscription.wants_stream]
        cases streams.ended <;> by_cases meant : subscription.Concerns event <;>
          simp [Subscription.stream, meant]
      · cases streams.ended <;> by_cases meant : subscription.Concerns event <;>
          simp [yielded, taken, StreamMove.heard, meant]
  | take id =>
      by_cases own : id = subscription.id
      · subst own
        refine ⟨received.tail, ?_, ?_⟩
        · rw [Holds, stays, Streams.step, get?_take, found]
          simp [Subscription.stream]
        · simp only [yielded, taken, if_true, holds.fst_take, StreamMove.heard]
          cases received with
          | nil => cases streams.ended <;> simp [Taken.event?]
          | cons oldest rest => simp [Taken.event?]
      · refine ⟨received, ?_, by simp [yielded, taken, StreamMove.heard, own]⟩
        rw [Holds, stays, Streams.step, get?_take, if_neg fun same => own same.symm, found]
        simp
  | drop id =>
      have apart : ¬ subscription.id = id := fun same => kept (congrArg StreamMove.drop same.symm)
      refine ⟨received, ?_, by simp [yielded, taken, StreamMove.heard]⟩
      rw [Holds, stays, Streams.step, get?_drop, if_neg apart, found]
      simp
  | close =>
      refine ⟨received, ?_, by simp [yielded, taken, StreamMove.heard]⟩
      rw [Holds, stays, Streams.step, get?_close, found]
      simp [Subscription.stream]

theorem runFrom (holds : streams.Holds subscription received) {moves : List StreamMove}
    (kept : .drop subscription.id ∉ moves) :
    ∃ later, (streams.runFrom moves).Holds subscription later ∧
      streams.yielded subscription.id moves ++ later = received ++
        (if streams.ended then [] else StreamMove.heard moves).filter
          fun event => decide (subscription.Concerns event) := by
  induction moves generalizing streams received with
  | nil => exact ⟨received, holds, by simp [yielded, taken, StreamMove.heard]⟩
  | cons move rest ih =>
      obtain ⟨own, others⟩ := not_or.mp fun either => kept (List.mem_cons.mpr either)
      obtain ⟨between, there, first⟩ := holds.step fun same => own same.symm
      obtain ⟨later, last, further⟩ := ih there others
      refine ⟨later, last, ?_⟩
      have parts : streams.yielded subscription.id (move :: rest) =
          streams.yielded subscription.id [move] ++ (streams.step move).yielded subscription.id rest := by
        simp [yielded, taken]
      have hears : (if streams.ended then [] else StreamMove.heard (move :: rest)) =
          (if streams.ended then [] else StreamMove.heard [move]) ++
            if (streams.step move).ended then [] else StreamMove.heard rest := by
        rw [ended_step]
        cases streams.ended <;> cases move <;> simp [StreamMove.heard]
      calc
        _ = streams.yielded subscription.id [move] ++
            ((streams.step move).yielded subscription.id rest ++ later) := by rw [parts, List.append_assoc]
        _ = streams.yielded subscription.id [move] ++ between ++ _ := by rw [further, List.append_assoc]
        _ = _ := by rw [first, hears, List.filter_append, List.append_assoc]

private theorem taken_of_ended (holds : streams.Holds subscription received) (ended : streams.ended = true)
    {moves : List StreamMove} (kept : .drop subscription.id ∉ moves) :
    streams.taken subscription.id moves =
      (received.take (moves.count (.take subscription.id))).map .event ++
        List.replicate (moves.count (.take subscription.id) - received.length) .ended := by
  induction moves generalizing streams received with
  | nil => simp [taken]
  | cons move rest ih =>
      obtain ⟨own, others⟩ := not_or.mp fun either => kept (List.mem_cons.mpr either)
      obtain ⟨later, there, parts⟩ := holds.step fun same => own same.symm
      have still : (streams.step move).ended = true := by rw [ended_step, ended, Bool.true_or]
      rw [taken, ih there still others, List.count_cons]
      simp only [ended, if_true, List.filter_nil, List.append_nil, yielded, taken] at parts
      by_cases takes : move = .take subscription.id
      · simp only [takes, if_true, holds.fst_take, ended] at parts ⊢
        cases received with
        | nil =>
            simp only [List.head?_nil, Option.map_none, Option.getD_none, List.append_eq_nil_iff] at parts
            simp [parts.2, List.replicate_succ]
        | cons oldest younger =>
            obtain rfl : later = younger := by simpa [Taken.event?] using parts
            simp
      · simp only [takes, if_false, List.nil_append, List.filterMap_nil] at parts ⊢
        simp [parts, takes]

end Holds

/-! All streams. -/

/-- The streams that are there are those that were started and not dropped, and they are open as long as
nothing has ended them. -/
structure Registered (streams : Streams) (moves : List StreamMove) : Prop where
  next : streams.nextId = 1 + moves.countP StreamMove.isSubscribe
  held : streams.held.map Stream.subscription = StreamMove.standing 1 moves
  live : ∀ stream ∈ streams.held, stream.live = !streams.ended

private theorem take_eq (streams : Streams) (id : Nat) :
    ∃ change : Stream → List Event, (streams.take id).2 =
      { streams with held := streams.held.map fun stream => { stream with received := change stream } } := by
  have same : ({ streams with held := streams.held.map fun stream => stream } : Streams) = streams := by
    simp
  unfold take
  split
  · exact ⟨Stream.received, same.symm⟩
  · split
    next oldest rest _ =>
      refine ⟨fun stream => if stream.id = id then rest else stream.received, ?_⟩
      simp only [Streams.mk.injEq, true_and, and_true]
      congr 1
      funext stream
      split <;> rfl
    next => exact ⟨Stream.received, same.symm⟩

theorem Registered.step {streams : Streams} {moves : List StreamMove}
    (registered : streams.Registered moves) (move : StreamMove) :
    (streams.step move).Registered (moves ++ [move]) := by
  obtain ⟨next, held, live⟩ := registered
  have standing := StreamMove.standing_snoc 1 moves move
  cases move with
  | subscribe method session =>
      refine ⟨?_, ?_, ?_⟩
      · simp [Streams.step, subscribe, next, StreamMove.isSubscribe, Nat.add_assoc]
      · simp [Streams.step, subscribe, held, standing, next, Stream.subscription]
      · intro stream member
        rcases List.mem_append.mp member with before | fresh
        · exact live stream before
        · rw [List.mem_singleton.mp fresh]
          rfl
  | receive event =>
      have same (stream : Stream) : (stream.push event).subscription = stream.subscription ∧
          (stream.push event).live = stream.live := by
        unfold Stream.push
        split <;> exact ⟨rfl, rfl⟩
      refine ⟨by simpa [Streams.step, dispatch, StreamMove.isSubscribe] using next, ?_, ?_⟩
      · simp [Streams.step, dispatch, Function.comp_def, same, held, standing]
      · intro stream member
        obtain ⟨before, inside, rfl⟩ := List.mem_map.mp member
        exact (same before).2.trans (live before inside)
  | take id =>
      obtain ⟨change, same⟩ := streams.take_eq id
      simp only [Streams.step, same]
      refine ⟨by simpa [StreamMove.isSubscribe] using next, ?_, ?_⟩
      · rw [standing, ← held, List.map_map]
        rfl
      · intro stream member
        obtain ⟨before, inside, rfl⟩ := List.mem_map.mp member
        exact live before inside
  | drop id =>
      refine ⟨by simpa [Streams.step, drop, StreamMove.isSubscribe] using next, ?_, ?_⟩
      · simp only [Streams.step, drop, standing, ← held, List.filter_map]
        rfl
      · exact fun stream member => live stream (List.mem_filter.mp member).1
  | close =>
      refine ⟨by simpa [Streams.step, close, StreamMove.isSubscribe] using next, ?_, ?_⟩
      · simp [Streams.step, close, Function.comp_def, standing, ← held, Stream.subscription]
      · intro stream member
        obtain ⟨before, -, rfl⟩ := List.mem_map.mp member
        rfl

private theorem registered_run (moves : List StreamMove) : (run moves).Registered moves := by
  induction moves using List.reverseRecOn with
  | nil => exact ⟨rfl, rfl, nofun⟩
  | append_singleton moves move ih =>
      rw [run_snoc]
      exact ih.step move

private theorem ended_run (moves : List StreamMove) : (run moves).ended = decide (.close ∈ moves) := by
  simp [run, ended_runFrom, empty]

private theorem fst_dispatch (moves : List StreamMove) (event : Event) :
    ((run moves).dispatch event).1 =
      if .close ∈ moves then 0
      else (StreamMove.standing 1 moves).countP fun subscription => decide (subscription.Concerns event) := by
  obtain ⟨-, held, live⟩ := registered_run moves
  have receives : ∀ stream ∈ (run moves).held, stream.receives event =
      (!decide (.close ∈ moves) && decide (stream.subscription.Concerns event)) := by
    intro stream member
    rw [Stream.receives, live stream member, ended_run, Stream.wants_eq]
  rw [dispatch, List.countP_congr fun stream member => by rw [receives stream member], ← held, List.countP_map]
  split <;> simp_all [Function.comp_def]

private theorem holds_subscribe (before : List StreamMove) {subscription : Subscription}
    (given : subscription.id = (run before).nextId) :
    (run (before ++ [.subscribe subscription.method subscription.session])).Holds subscription [] := by
  obtain ⟨next, held, -⟩ := registered_run before
  have absent : (run before).get? subscription.id = none := by
    simp only [get?, List.find?_eq_none, beq_iff_eq]
    intro stream member same
    have bound := StreamMove.mem_standing (held ▸ List.mem_map_of_mem member)
    simp only [Stream.subscription] at bound
    omega
  rw [run_snoc, Holds, ended_step, step, get?_subscribe, absent, given]
  simp [Subscription.stream, given]

/-- Two states of all streams that differ in one stream at most. -/
structure SameBut (dropped : Nat) (streams other : Streams) : Prop where
  next : streams.nextId = other.nextId
  ended : streams.ended = other.ended
  get? : ∀ id, id ≠ dropped → streams.get? id = other.get? id

theorem SameBut.step {dropped : Nat} (same : SameBut dropped streams other) (move : StreamMove) :
    SameBut dropped (streams.step move) (other.step move) := by
  obtain ⟨next, ended, alike⟩ := same
  refine ⟨?_, by rw [ended_step, ended_step, ended], fun id apart => ?_⟩
  · cases move with
    | take id =>
        obtain ⟨change, left⟩ := streams.take_eq id
        obtain ⟨change', right⟩ := other.take_eq id
        simp only [Streams.step, left, right, next]
    | subscribe | receive | drop | close => simp [Streams.step, subscribe, dispatch, drop, close, next]
  · have found := alike id apart
    cases move with
    | subscribe method session =>
        simp only [Streams.step, get?_subscribe, found, next, ended]
    | receive event => simp only [Streams.step, get?_dispatch, found]
    | take taken => simp only [Streams.step, get?_take, found]
    | drop gone => simp only [Streams.step, get?_drop, found]
    | close => simp only [Streams.step, get?_close, found]

theorem SameBut.taken {dropped : Nat} (same : SameBut dropped streams other) (apart : id ≠ dropped)
    (moves : List StreamMove) : streams.taken id moves = other.taken id moves := by
  induction moves generalizing streams other with
  | nil => rfl
  | cons move rest ih =>
      have given : (streams.take id).1 = (other.take id).1 := by
        simp only [take, same.get? id apart]
        split
        · rfl
        · split <;> rfl
      rw [Streams.taken, Streams.taken, given, ih (same.step move)]

theorem SameBut.runFrom {dropped : Nat} (same : SameBut dropped streams other) (moves : List StreamMove) :
    SameBut dropped (streams.runFrom moves) (other.runFrom moves) := by
  induction moves generalizing streams other with
  | nil => exact same
  | cons move rest ih => exact ih (same.step move)

/-- In the moves a stream is started for the subscription, and it is not dropped. -/
structure Started (moves before after : List StreamMove) (subscription : Subscription) : Prop where
  moves : moves = before ++ .subscribe subscription.method subscription.session :: after
  id : subscription.id = (run before).nextId
  kept : .drop subscription.id ∉ after

theorem Started.holds {moves before after : List StreamMove} {subscription : Subscription}
    (started : Started moves before after subscription) :
    ∃ later, (run moves).Holds subscription later ∧
      (run (before ++ [.subscribe subscription.method subscription.session])).yielded
          subscription.id after ++ later =
        (if .close ∈ before then [] else StreamMove.heard after).filter
          fun event => decide (subscription.Concerns event) := by
  obtain ⟨rfl, given, kept⟩ := started
  obtain ⟨later, last, parts⟩ := (holds_subscribe before given).runFrom kept
  refine ⟨later, ?_, ?_⟩
  · rwa [← run_append, List.append_assoc] at last
  · simpa [ended_run] using parts

/-- What streams give, after any moves. A stream that was not dropped has given, or still holds, the events that
were received after its start and before the end and that concern it, in their order. It gives the oldest that
it holds; without one it waits, or has ended if all have. After the end it gives what it holds and then ends.
What a stream gives and holds is the same if another one is not dropped. And an event reaches as many streams
as were started for it and not dropped, until the end. -/
structure Exact (moves : List StreamMove) : Prop where
  yields : ∀ before after subscription, Started moves before after subscription →
    (run (before ++ [.subscribe subscription.method subscription.session])).yielded subscription.id after ++
        (run moves).remaining subscription.id =
      (if .close ∈ before then [] else StreamMove.heard after).filter
        fun event => decide (subscription.Concerns event)
  gives : ∀ before after subscription, Started moves before after subscription →
    ((run moves).take subscription.id).1 =
      (((run moves).remaining subscription.id).head?.map .event).getD
        (if .close ∈ moves then .ended else .pending)
  ends : ∀ before after subscription, Started moves before after subscription → .close ∈ moves →
    ∀ more, .drop subscription.id ∉ more →
    (run moves).taken subscription.id more =
      (((run moves).remaining subscription.id).take (more.count (.take subscription.id))).map .event ++
        List.replicate (more.count (.take subscription.id) -
          ((run moves).remaining subscription.id).length) .ended
  others : ∀ before after dropped id, moves = before ++ .drop dropped :: after → id ≠ dropped →
    empty.taken id moves = empty.taken id (before ++ after) ∧
      (run moves).remaining id = (run (before ++ after)).remaining id
  reaches : ∀ event, ((run moves).dispatch event).1 =
    if .close ∈ moves then 0
    else (StreamMove.standing 1 moves).countP fun subscription => decide (subscription.Concerns event)

theorem exact (moves : List StreamMove) : Exact moves where
  yields before after subscription started := by
    obtain ⟨later, holds, parts⟩ := started.holds
    rwa [holds.remaining]
  gives before after subscription started := by
    obtain ⟨later, holds, -⟩ := started.holds
    rw [holds.fst_take, holds.remaining, ended_run]
    simp
  ends before after subscription started closed more kept := by
    obtain ⟨later, holds, -⟩ := started.holds
    rw [holds.remaining]
    exact holds.taken_of_ended (by simpa [ended_run] using closed) kept
  others before after dropped id parts apart := by
    subst parts
    have same : SameBut dropped ((run before).step (.drop dropped)) (run before) :=
      ⟨rfl, rfl, fun other different => by rw [step, get?_drop, if_neg different]⟩
    refine ⟨?_, ?_⟩
    · have through := same.taken apart after
      simp only [taken_append, taken, reduceCtorEq, if_false, List.nil_append]
      exact congrArg _ through
    · have there := (same.runFrom after).get? id apart
      rw [run_append, run_append, runFrom_cons, remaining, remaining, there]
  reaches event := fst_dispatch moves event

/-- A stream for one session gets the event of that session only, though another stream is dropped. -/
example :
    let heard : Event := ⟨"Page.loadEventFired", .null, ⟨"S1"⟩⟩
    (run [.subscribe heard.method (some ⟨"S1"⟩), .subscribe heard.method none,
      .receive ⟨heard.method, .null, ⟨"S2"⟩⟩, .receive heard, .drop 2, .close]).remaining 1 = [heard] := rfl

end Streams

namespace Traffic

def streamMove? (traffic : Traffic) : Move → Option StreamMove
  | .subscribe method session => some (.subscribe method session)
  | .takeEvent stream => some (.take stream)
  | .dropStream stream => some (.drop stream)
  | .loop (.receive text) =>
      match traffic.loop, Incoming.read text with
      | .listening, .ok (.event event) => some (.receive event)
      | _, _ => none
  | .loop .exit => if traffic.loop = .drained then some .close else none
  | _ => none

def streamMoves (traffic : Traffic) : List Move → List StreamMove
  | [] => []
  | move :: rest => (traffic.streamMove? move).toList ++ (traffic.step move).streamMoves rest

private theorem streams_receive (connection : Connection) (text : String) :
    (connection.receive text).streams = match Incoming.read text with
      | .ok (.event event) => (connection.streams.dispatch event).2
      | _ => connection.streams := by
  have resolved (id : Nat) (answer : Slot → Except Error Json) :
      (connection.resolve id answer).streams = connection.streams := by
    obtain ⟨slots, answers, same⟩ := connection.exists_resolve id answer
    rw [same]
  unfold Connection.receive
  cases Incoming.read text with
  | ok incoming =>
      cases incoming with
      | response reply => exact resolved _ _
      | event event => rfl
  | error error =>
      simp only
      split
      · exact resolved _ _
      · rfl

private theorem streams_step (traffic : Traffic) (move : Move) :
    (traffic.step move).connection.streams =
      traffic.connection.streams.runFrom (traffic.streamMove? move).toList := by
  cases move with
  | call place own =>
      cases found : traffic.calls[place]? with
      | none => rw [step_call_none found own]; rfl
      | some call =>
          obtain ⟨phase, connection, stride, same⟩ := step_call found own
          rw [same]
          exact stride.flags.2.2
  | loop own =>
      obtain ⟨connection, calls, loop, now⟩ := traffic
      simp only [step]
      unfold Loop.move
      split
      next text =>
        rw [streams_receive]
        simp only [streamMove?]
        cases Incoming.read text with
        | error => rfl
        | ok incoming => cases incoming <;> rfl
      next =>
        unfold Connection.dequeue
        cases connection.queue with
        | nil => rfl
        | cons outgoing rest => cases outgoing <;> rfl
      next => rfl
      next => rfl
      next id reason =>
        obtain ⟨slots, answers, same⟩ := connection.exists_resolve id fun _ => .error (.connection reason)
        rw [Connection.failWrite, same]
        rfl
      next => rfl
      next => rfl
      next => rfl
      next => rfl
      next =>
        have silent : streamMove? ⟨connection, calls, loop, now⟩ (.loop own) = none := by
          cases own <;> cases loop <;> first | rfl | simp_all
        rw [silent]
        rfl
  | shutdown =>
      obtain ⟨queue, same⟩ := traffic.step_shutdown
      rw [same]
      rfl
  | start | subscribe | takeEvent | dropStream | pass => rfl

theorem streams_runFrom (traffic : Traffic) (moves : List Move) :
    (traffic.runFrom moves).connection.streams =
      traffic.connection.streams.runFrom (traffic.streamMoves moves) := by
  induction moves generalizing traffic with
  | nil => rfl
  | cons move rest ih => rw [runFrom_cons, ih, streams_step, streamMoves, Streams.runFrom_append]

private theorem taken_eq (traffic : Traffic) (stream : Nat) (moves : List Move) :
    traffic.taken stream moves = traffic.connection.streams.taken stream (traffic.streamMoves moves) := by
  induction moves generalizing traffic with
  | nil => rfl
  | cons move rest ih =>
      rw [taken, ih, streamMoves, Streams.taken_append, ← streams_step]
      cases move with
      | takeEvent id =>
          by_cases own : id = stream <;> simp [streamMove?, Streams.taken, own]
      | loop own =>
          cases means : traffic.streamMove? (.loop own) with
          | none => simp [Streams.taken]
          | some other =>
              have apart : other ≠ .take stream := by
                rintro rfl
                cases own <;> simp only [streamMove?, reduceCtorEq] at means
                · split at means <;> cases means
                · split at means <;> cases means
              simp [Streams.taken, apart]
      | start | call | shutdown | subscribe | dropStream | pass => simp [streamMove?, Streams.taken]

/-- Streams of events are exact in every order of what happens to them, and on a connection what happens to them
is this: they are started, taken from and dropped by their holders, they receive the events that the connection
receives as long as it listens, and they end when its loop is over. -/
theorem streams_exact :
    (∀ moves : List StreamMove, Streams.Exact moves) ∧
      ∀ (moves more : List Move) (stream : Nat),
        (run moves).connection.streams = Streams.run (opening.streamMoves moves) ∧
          (run moves).taken stream more =
            (Streams.run (opening.streamMoves moves)).taken stream ((run moves).streamMoves more) := by
  refine ⟨Streams.exact, fun moves more stream => ?_⟩
  have streams : (run moves).connection.streams = Streams.run (opening.streamMoves moves) :=
    streams_runFrom opening moves
  exact ⟨streams, by rw [taken_eq, streams]⟩

end Traffic

end RemoteDom
