import RemoteDom.Proofs.Dom.Capability
import RemoteDom.Proofs.Dom.Lists
import RemoteDom.Proofs.Json.RoundTrip
import RemoteDom.Proofs.Program.Runs

/-! What is not there. A query gives nothing exactly if somewhere on its way, at a frame or at the end, nothing matches.
Finding reports that at once. Waiting queries again, and what it gives is decided by the first query that gives
something or fails; it is late exactly if all queries up to the deadline give nothing. -/

namespace RemoteDom

open ClientProgram (Run perform)

variable {α β : Type} {surroundings : Surroundings}

private theorem perform_bind_error {operation : Browsing α} {next : α → Browsing β} {past later : List Happening}
    {error : Error} (run : perform surroundings operation.run past = (.error error, later)) :
    perform surroundings (operation >>= next).run past = (.error error, later) := by
  show perform surroundings (operation.run >>= ExceptT.bindCont next) past = _
  rw [ClientProgram.perform_bind, run]
  rfl

private theorem perform_bind_eq_ok_iff {operation : Browsing α} {next : α → Browsing β} {past later : List Happening}
    {value : β} :
    perform surroundings (operation >>= next).run past = (.ok value, later) ↔
      ∃ first between, perform surroundings operation.run past = (.ok first, between) ∧
        perform surroundings (next first).run between = (.ok value, later) := by
  rcases ran : perform surroundings operation.run past with ⟨outcome, between⟩
  cases outcome with
  | ok first =>
      rw [perform_bind_ok ran]
      constructor
      · exact fun onward => ⟨first, between, rfl, onward⟩
      · rintro ⟨_, _, same, onward⟩
        cases same
        exact onward
  | error error =>
      rw [perform_bind_error ran]
      exact ⟨nofun, nofun⟩

/-! Queries. -/

namespace Scope

/-- On the way from frame to frame one of the locators matches nothing, be it the last or one that should find a
frame. -/
inductive Missing (surroundings : Surroundings) :
    Scope → List Locator → List Happening → List Happening → Prop
  | here {scope : Scope} {locator : Locator} {further : List Locator} {past later : List Happening}
      (none : perform surroundings (scope.queryHere locator false).run past = (.ok [], later)) :
      Missing surroundings scope (locator :: further) past later
  | inside {scope within : Scope} {frame next : Locator} {further : List Locator} {owner : Element}
      {others : List Element} {past found entered later : List Happening}
      (matched : perform surroundings (scope.queryHere frame false).run past = (.ok (owner :: others), found))
      (content : perform surroundings owner.contentScope.run found = (.ok within, entered))
      (missing : Missing surroundings within (next :: further) entered later) :
      Missing surroundings scope (frame :: next :: further) past later

/-- The induction is on the locators: behind the first match of one the next begins in the content of that frame. -/
private theorem perform_queryThrough_eq_nil_iff (scope : Scope) {segments : List Locator} (some : segments ≠ [])
    {past later : List Happening} :
    perform surroundings (scope.queryThrough false segments).run past = (.ok [], later) ↔
      Missing surroundings scope segments past later := by
  induction segments generalizing scope past with
  | nil => exact absurd rfl some
  | cons segment rest ih =>
      cases rest with
      | nil =>
          refine ⟨fun none => .here none, fun missing => ?_⟩
          cases missing with
          | here none => exact none
      | cons next further =>
          have onward (within : Scope) (entered : List Happening) :
              perform surroundings (within.queryThrough false (next :: further)).run entered = (.ok [], later) ↔
                Missing surroundings within (next :: further) entered later :=
            ih within (List.cons_ne_nil _ _)
          rw [queryThrough, perform_bind_eq_ok_iff]
          · constructor
            · rintro ⟨elements, found, matched, rest⟩
              cases elements with
              | nil =>
                  cases rest
                  exact .here matched
              | cons owner others =>
                  obtain ⟨within, entered, content, missing⟩ := perform_bind_eq_ok_iff.mp rest
                  exact .inside matched content ((onward within entered).mp missing)
            · intro missing
              cases missing with
              | here none => exact ⟨[], later, none, rfl⟩
              | inside matched content missing =>
                  refine ⟨_, _, matched, perform_bind_eq_ok_iff.mpr ⟨_, _, content, ?_⟩⟩
                  exact (onward _ _).mpr missing
          · simp

variable (scope : Scope) (locator : Locator)

private theorem supports_of_missing {segment : Locator} {further : List Locator} {past later : List Happening}
    (missing : Missing surroundings scope (segment :: further) past later) :
    scope.extent.supports segment.dialect = true := by
  obtain ⟨elements, ran⟩ : ∃ elements later,
      perform surroundings (scope.queryHere segment false).run past = (.ok elements, later) := by
    cases missing with
    | here none => exact ⟨_, _, none⟩
    | inside matched => exact ⟨_, _, matched⟩
  by_contra unsupported
  obtain ⟨later, ran⟩ := ran
  rw [queryHere, scope.check_of_unsupported (Bool.eq_false_of_not_eq_true unsupported)] at ran
  cases ran

private theorem perform_query_eq_nil_iff {past later : List Happening} :
    perform surroundings (scope.query locator false).run past = (.ok [], later) ↔
      Missing surroundings scope locator.segments past later := by
  rw [← scope.perform_queryThrough_eq_nil_iff locator.segments_ne_nil]
  cases supported : scope.extent.supports locator.dialect with
  | true =>
      rw [query, scope.check_of_supports supported]
      rfl
  | false =>
      rw [scope.query_of_unsupported supported, scope.perform_queryThrough_eq_nil_iff locator.segments_ne_nil]
      refine ⟨nofun, fun missing => ?_⟩
      cases cut : locator.segments with
      | nil => exact absurd cut locator.segments_ne_nil
      | cons segment further =>
          have same : segment.dialect = locator.dialect :=
            Locator.dialect_of_mem_segments (cut ▸ List.mem_cons_self)
          rw [cut] at missing
          have supports := scope.supports_of_missing missing
          rw [same, supported] at supports
          cases supports

def firstFound : Except Error (List Element) → Except Error Element
  | .ok (element :: _) => .ok element
  | .ok [] => .error (.elementNotFound locator.display scope.context.session)
  | .error error => .error error

private theorem perform_find (past : List Happening) :
    perform surroundings (scope.find locator).run past =
      Prod.map (scope.firstFound locator) id (perform surroundings (scope.query locator false).run past) := by
  show perform surroundings ((scope.query locator false).run >>= _) past = _
  rw [ClientProgram.perform_bind]
  rcases perform surroundings (scope.query locator false).run past with ⟨outcome, later⟩
  match outcome with
  | .ok [] => rfl
  | .ok (element :: others) => rfl
  | .error error => rfl

private theorem not_absent_of_query
    (served : ∀ past session command, CallEnd session command (surroundings past (.request session command)))
    {all : Bool} {past : List Happening} {error : Error}
    (failed : (perform surroundings (scope.query locator all).run past).1 = .error error) :
    (∀ selector session, error ≠ .elementNotFound selector session) ∧
      ∀ operation milliseconds, error ≠ .timeout operation milliseconds := by
  cases supported : scope.extent.supports locator.dialect with
  | false =>
      rw [scope.query_of_unsupported supported] at failed
      cases failed
      exact ⟨nofun, nofun⟩
  | true =>
      obtain ⟨own, journal, yielded⟩ := (scope.yields_query supported all).perform surroundings past
      rw [failed] at yielded
      cases yielded with
      | fault is => cases is <;> exact ⟨nofun, nofun⟩
      | told told =>
          have carried := carried_of_served served journal error told
          constructor <;> (rintro _ _ rfl; cases carried)

end Scope

/-! Waits query by query. -/

section Probes

variable {query : Browsing (List α)} {deadline interval : Nat} {past later : List Happening}

/-- How a wait goes on: the journals from which its queries begin, what comes of the last, and the journal behind them.
A query that gives something or fails is the last, and so is one behind which the clock shows the deadline or more. -/
inductive Probed (surroundings : Surroundings) (query : Browsing (List α)) (deadline interval : Nat) :
    List Happening → List (List Happening) → Except Error (List α) → List Happening → Prop
  | decided {past later : List Happening} {outcome : Except Error (List α)}
      (ran : perform surroundings query.run past = (outcome, later)) (decides : outcome ≠ .ok []) :
      Probed surroundings query deadline interval past [past] outcome later
  | late {past later : List Happening} {now : Nat} (vain : perform surroundings query.run past = (.ok [], later))
      (told : surroundings later .now = now) (overdue : deadline ≤ now) :
      Probed surroundings query deadline interval past [past] (.ok []) (later ++ [⟨.now, now⟩])
  | again {past later final : List Happening} {begun : List (List Happening)} {outcome : Except Error (List α)}
      {now : Nat} (vain : perform surroundings query.run past = (.ok [], later))
      (told : surroundings later .now = now) (early : now < deadline)
      (further : Probed surroundings query deadline interval
        (later ++ [⟨.now, now⟩, ⟨.sleep (min interval (deadline - now)), ()⟩]) begun outcome final) :
      Probed surroundings query deadline interval past (past :: begun) outcome final

def glance (query : Browsing (List α)) : Browsing (Option α) := do return (← query).head?

theorem Probed.parts {begun : List (List Happening)} {outcome : Except Error (List α)}
    (probed : Probed surroundings query deadline interval past begun outcome later) :
    ∃ before last, begun = before ++ [last] ∧
      (∀ earlier ∈ before, (perform surroundings query.run earlier).1 = .ok []) ∧
      (perform surroundings query.run last).1 = outcome := by
  induction probed with
  | decided ran decides => exact ⟨[], _, rfl, List.forall_mem_nil _, congrArg Prod.fst ran⟩
  | late vain told overdue => exact ⟨[], _, rfl, List.forall_mem_nil _, congrArg Prod.fst vain⟩
  | again vain told early further ih =>
      obtain ⟨before, last, rfl, empty, same⟩ := ih
      exact ⟨_ :: before, last, rfl, List.forall_mem_cons.mpr ⟨congrArg Prod.fst vain, empty⟩, same⟩

private theorem perform_glance {outcome : Except Error (List α)}
    (ran : perform surroundings query.run past = (outcome, later)) :
    perform surroundings (glance query).run past = (outcome.map List.head?, later) := by
  show perform surroundings (query.run >>= _) past = _
  rw [ClientProgram.perform_bind, ran]
  cases outcome <;> rfl

private theorem perform_lookUntil_vain {look : Browsing (Option α)}
    (vain : perform surroundings look.run past = (.ok none, later)) (deadline interval looks : Nat) :
    perform surroundings (lookUntil deadline interval look (looks + 1)).run past =
      if deadline ≤ surroundings later .now then (.ok none, later ++ [⟨.now, surroundings later .now⟩])
      else perform surroundings (lookUntil deadline interval look looks).run
        (later ++ [⟨.now, surroundings later .now⟩,
          ⟨.sleep (min interval (deadline - surroundings later .now)), ()⟩]) := by
  rw [lookUntil, perform_bind_ok vain]
  show perform surroundings (if deadline ≤ surroundings later .now then pure none else _ : Browsing (Option α)).run
    (later ++ [⟨.now, surroundings later .now⟩]) = _
  split
  · rfl
  · show perform surroundings (lookUntil deadline interval look looks).run ((later ++ [_]) ++ [_]) = _
    rw [List.append_assoc]
    rfl

private theorem exists_probed (surroundings : Surroundings) (query : Browsing (List α)) (deadline interval looks : Nat)
    (past : List Happening) :
    (∃ begun outcome later, Probed surroundings query deadline interval past begun outcome later ∧
      perform surroundings (lookUntil deadline interval (glance query) looks).run past =
        (outcome.map List.head?, later)) ∨
    ∃ own, (perform surroundings (lookUntil deadline interval (glance query) looks).run past).2 = past ++ own ∧
      InVain (Run (glance query).run) deadline interval looks own := by
  induction looks generalizing past with
  | zero => exact .inr ⟨[], (List.append_nil past).symm, .none⟩
  | succ looks ih =>
      rcases ran : perform surroundings query.run past with ⟨outcome, later⟩
      have looked := perform_glance ran
      by_cases empty : outcome = .ok []
      · subst empty
        have next := perform_lookUntil_vain looked deadline interval looks
        by_cases overdue : deadline ≤ surroundings later .now
        · rw [if_pos overdue] at next
          exact .inl ⟨_, _, _, .late ran rfl overdue, next⟩
        · rw [if_neg overdue] at next
          rw [next]
          rcases ih (later ++ _) with ⟨begun, outcome, final, probed, same⟩ | ⟨more, journal, vain⟩
          · exact .inl ⟨_, _, _, .again ran rfl (Nat.lt_of_not_le overdue) probed, same⟩
          · obtain ⟨own, grown, run⟩ := (ClientProgram.leaves_run (glance query).run).perform surroundings past
            rw [looked] at grown run
            obtain rfl : later = past ++ own := grown
            refine .inr ⟨own ++ _ :: _ :: more, ?_, .look run (Nat.lt_of_not_le overdue) vain⟩
            rw [journal, List.append_assoc, List.append_assoc]
            rfl
      · refine .inl ⟨_, _, _, .decided ran empty, ?_⟩
        match outcome with
        | .ok [] => exact absurd rfl empty
        | .ok (first :: others) =>
            rw [lookUntil, perform_bind_ok looked]
            rfl
        | .error error => exact perform_bind_error looked

private theorem perform_pollOrFail {look : Browsing (Option α)} {operation : String} {patience : Patience}
    {finding : Except Error (Option α)}
    (looked : perform surroundings
      (lookUntil (surroundings past .now + patience.timeout) patience.interval look patience.looks).run
      (past ++ [⟨.now, surroundings past .now⟩]) = (finding, later)) :
    perform surroundings (pollOrFail operation patience look).run past =
      (patience.verdict operation finding, later) := by
  unfold pollOrFail poll
  rw [bind_assoc]
  show perform surroundings ((lookUntil (surroundings past .now + patience.timeout) patience.interval look
    patience.looks).run >>= _) (past ++ [⟨.now, surroundings past .now⟩]) = _
  rw [ClientProgram.perform_bind, looked]
  match finding with
  | .ok (some value) => rfl
  | .ok none => rfl
  | .error error => rfl

/-- While time passes, a wait with pauses goes on query by query until the last one settles it. -/
private theorem exists_probed_of_steady (surroundings : Surroundings) (query : Browsing (List α)) (operation : String)
    {patience : Patience} (pausing : 0 < patience.interval) (past : List Happening) :
    ∃ own, (perform surroundings (pollOrFail operation patience (glance query)).run past).2 = past ++ own ∧
      (Steady 0 own → ∃ begun outcome later,
        Probed surroundings query (surroundings past .now + patience.timeout) patience.interval
          (past ++ [⟨.now, surroundings past .now⟩]) begun outcome later ∧
        perform surroundings (pollOrFail operation patience (glance query)).run past =
          (patience.verdict operation (outcome.map List.head?), later)) := by
  obtain ⟨own, journal, -⟩ :=
    (ClientProgram.leaves_run (pollOrFail operation patience (glance query)).run).perform surroundings past
  refine ⟨own, journal, fun steady => ?_⟩
  rcases exists_probed surroundings query (surroundings past .now + patience.timeout) patience.interval patience.looks
    (past ++ [⟨.now, surroundings past .now⟩]) with
    ⟨begun, outcome, later, probed, looked⟩ | ⟨more, grown, vain⟩
  · exact ⟨begun, outcome, later, probed, perform_pollOrFail looked⟩
  -- So many looks, each in vain and in time, with a pause after each, would outlast the time that there is.
  · rcases looked : perform surroundings (lookUntil (surroundings past .now + patience.timeout) patience.interval
      (glance query) patience.looks).run (past ++ [⟨.now, surroundings past .now⟩]) with ⟨finding, later⟩
    rw [looked] at grown
    obtain rfl : later = _ := grown
    rw [perform_pollOrFail looked, List.append_assoc] at journal
    obtain rfl := List.append_cancel_left journal
    exact absurd vain (not_inVain_looks (Nat.ne_of_gt pausing) steady.2)

end Probes

/-! The first query that is not in vain. -/

section Earliest

variable {queried : List Happening → Except Error (List α)} {before : List (List Happening)}

/-- Of these queries one comes to that, and all before it give nothing. -/
def Earliest (queried : List Happening → Except Error (List α)) (begun : List (List Happening))
    (given : Except Error (List α)) : Prop :=
  ∃ before past after, begun = before ++ past :: after ∧ (∀ earlier ∈ before, queried earlier = .ok []) ∧
    queried past = given

private theorem earliest_append_iff (vain : ∀ earlier ∈ before, queried earlier = .ok []) (last : List Happening)
    (given : Except Error (List α)) (something : given ≠ .ok []) :
    Earliest queried (before ++ [last]) given ↔ queried last = given := by
  constructor
  · rintro ⟨front, past, after, parts, -, came⟩
    have member : past ∈ before ++ [last] := parts ▸ List.mem_append_right _ List.mem_cons_self
    rcases List.mem_append.mp member with earlier | here
    · exact absurd (came.symm.trans (vain past earlier)) something
    · exact List.mem_singleton.mp here ▸ came
  · exact fun came => ⟨before, last, [], rfl, vain, came⟩

private theorem forall_vain_append_iff (vain : ∀ earlier ∈ before, queried earlier = .ok []) (last : List Happening) :
    (∀ past ∈ before ++ [last], queried past = .ok []) ↔ queried last = .ok [] := by
  rw [List.forall_mem_append, List.forall_mem_singleton]
  exact and_iff_right vain

end Earliest

/-! Finding and waiting. -/

structure Finds (scope : Scope) (locator : Locator) (queried : Except Error (List Element))
    (outcome : Except Error Element) : Prop where
  absent : (∃ selector session, outcome = .error (.elementNotFound selector session)) ↔ queried = .ok []
  named : queried = .ok [] → outcome = .error (.elementNotFound locator.display scope.context.session)
  first : ∀ element others, queried = .ok (element :: others) → outcome = .ok element
  failed : ∀ error, queried = .error error → outcome = .error error

structure Awaited (locator : Locator) (patience : Patience) (queried : List Happening → Except Error (List Element))
    (begun : List (List Happening)) (outcome : Except Error Element) : Prop where
  found : ∀ element, outcome = .ok element ↔ ∃ others, Earliest queried begun (.ok (element :: others))
  failed : ∀ error, Earliest queried begun (.error error) → outcome = .error error
  late : (∃ operation milliseconds, outcome = .error (.timeout operation milliseconds)) ↔
    ∀ past ∈ begun, queried past = .ok []
  /-- What is told is the timeout of the wait, as far as sixty-four bits hold it. -/
  carries : (∀ past ∈ begun, queried past = .ok []) →
    outcome = .error (.timeout ("wait for " ++ locator.display) (min patience.timeout (2 ^ 64 - 1)))
  /-- There is no third way to end. -/
  settled : (∀ past ∈ begun, queried past = .ok []) ∨ ∃ given, given ≠ .ok [] ∧ Earliest queried begun given
  neverAbsent : ∀ selector session, outcome ≠ .error (.elementNotFound selector session)

private theorem Awaited.of_last {locator : Locator} {patience : Patience}
    {queried : List Happening → Except Error (List Element)} {before : List (List Happening)} {last : List Happening}
    (vain : ∀ earlier ∈ before, queried earlier = .ok [])
    (otherwise : ∀ error, queried last = .error error →
      (∀ selector session, error ≠ .elementNotFound selector session) ∧
        ∀ operation milliseconds, error ≠ .timeout operation milliseconds) :
    Awaited locator patience queried (before ++ [last])
      (patience.verdict ("wait for " ++ locator.display) ((queried last).map List.head?)) := by
  have empty := forall_vain_append_iff vain last
  have found (first : Element) (others : List Element) := earliest_append_iff vain last (.ok (first :: others)) nofun
  have failed (error : Error) := earliest_append_iff vain last (.error error) nofun
  generalize queried last = given at empty found failed otherwise
  match given with
  | .ok [] =>
      have allEmpty := empty.mpr rfl
      refine ⟨fun element => ⟨nofun, ?_⟩, fun error fails => ?_, ⟨fun _ => allEmpty, fun _ => ⟨_, _, rfl⟩⟩,
        fun _ => rfl, .inl allEmpty, nofun⟩
      · rintro ⟨others, some⟩
        cases (found element others).mp some
      · cases (failed error).mp fails
  | .ok (first :: others) =>
      have some := (found first others).mpr rfl
      refine ⟨fun element => ⟨?_, ?_⟩, fun error fails => ?_, ⟨nofun, fun all => ?_⟩, fun all => ?_,
        .inr ⟨.ok (first :: others), nofun, some⟩, nofun⟩
      · rintro ⟨⟩
        exact ⟨others, some⟩
      · rintro ⟨more, other⟩
        cases (found element more).mp other
        rfl
      · cases (failed error).mp fails
      · cases empty.mp all
      · cases empty.mp all
  | .error error =>
      have fails := (failed error).mpr rfl
      have ⟨notAbsent, notLate⟩ := otherwise error rfl
      refine ⟨fun element => ⟨nofun, ?_⟩, fun other others => ?_, ⟨?_, fun all => ?_⟩, fun all => ?_,
        .inr ⟨.error error, nofun, fails⟩, ?_⟩
      · rintro ⟨others, some⟩
        cases (found element others).mp some
      · cases (failed other).mp others
        rfl
      · rintro ⟨operation, milliseconds, ⟨⟩⟩
        exact absurd rfl (notLate operation milliseconds)
      · cases empty.mp all
      · cases empty.mp all
      · rintro selector session ⟨⟩
        exact absurd rfl (notAbsent selector session)

namespace Scope

variable (scope : Scope) (locator : Locator)

private theorem waitFor_eq (patience : Patience) :
    scope.waitFor locator patience =
      pollOrFail ("wait for " ++ locator.display) patience (glance (scope.query locator false)) := rfl

private theorem finds
    (served : ∀ past session command, CallEnd session command (surroundings past (.request session command)))
    (past : List Happening) :
    Finds scope locator (perform surroundings (scope.query locator false).run past).1
      (perform surroundings (scope.find locator).run past).1 := by
  have come : (perform surroundings (scope.find locator).run past).1 =
      scope.firstFound locator (perform surroundings (scope.query locator false).run past).1 := by
    rw [perform_find]
    rfl
  rw [come]
  refine ⟨⟨?_, ?_⟩, ?_, ?_, ?_⟩
  · rintro ⟨selector, session, absent⟩
    match queried : (perform surroundings (scope.query locator false).run past).1 with
    | .ok [] => rfl
    | .ok (element :: others) =>
        rw [queried] at absent
        cases absent
    | .error error =>
        rw [queried] at absent
        cases absent
        exact absurd rfl ((scope.not_absent_of_query locator served queried).1 selector session)
  · intro none
    rw [none]
    exact ⟨_, _, rfl⟩
  · intro none
    rw [none]
    rfl
  · intro element others some
    rw [some]
    rfl
  · intro error failed
    rw [failed]
    rfl

end Scope

/-- If requests end as calls on a connection do, then finding reports that there is nothing if and only if the query
gives nothing, and so if and only if something is missing on its way. While time passes, a wait with pauses gives what
the first of its queries gives that gives something or fails. It is late if and only if all of them give nothing,
the last of them being over at the deadline or later. -/
theorem absence_reported {surroundings : Surroundings}
    (served : ∀ past session command, CallEnd session command (surroundings past (.request session command)))
    (scope : Scope) (locator : Locator) (past : List Happening) :
    (∀ later, perform surroundings (scope.query locator false).run past = (.ok [], later) ↔
      scope.Missing surroundings locator.segments past later) ∧
    (Finds scope locator (perform surroundings (scope.query locator false).run past).1
        (perform surroundings (scope.find locator).run past).1 ∧
      (perform surroundings (scope.find locator).run past).2 =
        (perform surroundings (scope.query locator false).run past).2) ∧
    ∀ patience : Patience, 0 < patience.interval →
      ∃ own, (perform surroundings (scope.waitFor locator patience).run past).2 = past ++ own ∧
        (Steady 0 own → ∃ begun last,
          Probed surroundings (scope.query locator false) (surroundings past .now + patience.timeout) patience.interval
            (past ++ [⟨.now, surroundings past .now⟩]) begun last (past ++ own) ∧
          Awaited locator patience (fun past => (perform surroundings (scope.query locator false).run past).1) begun
            (perform surroundings (scope.waitFor locator patience).run past).1) := by
  refine ⟨fun later => scope.perform_query_eq_nil_iff locator, ⟨scope.finds locator served past, ?_⟩,
    fun patience pausing => ?_⟩
  · rw [Scope.perform_find]
    rfl
  · obtain ⟨own, journal, settled⟩ := exists_probed_of_steady surroundings (scope.query locator false)
      ("wait for " ++ locator.display) pausing past
    refine ⟨own, journal, fun steady => ?_⟩
    obtain ⟨begun, outcome, later, probed, waited⟩ := settled steady
    obtain rfl : later = past ++ own := by rw [← journal, waited]
    refine ⟨begun, outcome, probed, ?_⟩
    obtain ⟨before, last, rfl, vain, rfl⟩ := probed.parts
    rw [scope.waitFor_eq, waited]
    exact .of_last vain fun error failed => scope.not_absent_of_query locator served failed

def firstAnswer (members : List (String × Json)) : Json :=
  .object [("id", .integer 1), ("result", .object members)]

private theorem read_firstAnswer {members : List (String × Json)} (kept : (firstAnswer members).Kept)
    (shallow : (firstAnswer members).height ≤ 127) :
    Incoming.read (firstAnswer members).compact = .ok (.response ⟨1, some (.object members), none, ⟨""⟩⟩) := by
  rw [Incoming.read, Json.Kept.read?_compact kept shallow]
  rfl

/-- A call can end with any object that can be written. -/
private theorem callEnd_object (session : SessionId) (command : Command) {members : List (String × Json)}
    (kept : (firstAnswer members).Kept) (shallow : (firstAnswer members).height ≤ 127) :
    CallEnd session command (.ok (.object members)) := by
  have sent : Traffic.run (.start session command 0 :: .replicate 4 (.call 0 .proceed)) =
      ⟨⟨2, false, true, [.frame 1 (Request.text ⟨1, session, command⟩)], [⟨1, command.method, session⟩], [], .empty⟩,
        [⟨session, command, 0, .waiting 1 0⟩], .listening, 0⟩ := rfl
  refine ⟨(.start session command 0 :: .replicate 4 (.call 0 .proceed)) ++
    [.loop (.receive (firstAnswer members).compact), .call 0 .proceed], 0,
    ⟨session, command, 0, .leaving 1 (.ok (.object members))⟩, some 1, ?_, rfl, rfl, rfl⟩
  rw [Traffic.run_append, sent]
  simp only [Traffic.runFrom_cons, Traffic.step, Loop.move, Connection.receive, read_firstAnswer kept shallow]
  rfl

def slept : List Happening → Nat
  | [] => 0
  | ⟨.sleep time, _⟩ :: rest => time + slept rest
  | _ :: rest => slept rest

def emptyPage : Surroundings := fun past act =>
  match act with
  | .request _ _ => .ok (.object [])
  | .now => slept past
  | own => offline past own

private theorem slept_append (past own : List Happening) : slept (past ++ own) = slept past + slept own := by
  induction past with
  | nil => exact (Nat.zero_add _).symm
  | cons first rest ih =>
      obtain ⟨act, answer⟩ := first
      cases act with
      | sleep time =>
          show time + slept (rest ++ own) = time + slept rest + slept own
          rw [ih, Nat.add_assoc]
      | _ => exact ih

private theorem steady_emptyPage (program : ClientProgram α) (past : List Happening) :
    ∃ own, (perform emptyPage program past).2 = past ++ own ∧ Steady (slept past) own := by
  induction program generalizing past with
  | done value => exact ⟨[], (List.append_nil past).symm, trivial⟩
  | act act next ih =>
      obtain ⟨own, journal, steady⟩ := ih (emptyPage past act) (past ++ [⟨act, emptyPage past act⟩])
      rw [slept_append] at steady
      refine ⟨⟨act, emptyPage past act⟩ :: own, by rw [ClientProgram.perform_act, journal, List.append_assoc]; rfl, ?_⟩
      cases act with
      | now => exact ⟨Nat.le_refl _, steady⟩
      | _ => exact steady

def framed : Locator := .css "iframe p"

/-- On an empty page there is no frame to look into: finding says so, and a wait is late. -/
theorem absence_reported_emptyPage :
    (∀ past session command, CallEnd session command (emptyPage past (.request session command))) ∧
      (∃ later, shownPage.Missing emptyPage framed.segments [] later) ∧
      (perform emptyPage (shownPage.find framed).run []).1 = .error (.elementNotFound framed.display .topLevel) ∧
      0 < 2 ∧ Steady 0 (perform emptyPage (shownPage.waitFor framed ⟨5, 2⟩).run []).2 ∧
      (perform emptyPage (shownPage.waitFor framed ⟨5, 2⟩).run []).1 =
        .error (.timeout ("wait for " ++ framed.display) 5) := by
  have served (past : List Happening) (session : SessionId) (command : Command) :
      CallEnd session command (emptyPage past (.request session command)) :=
    callEnd_object session command ⟨by decide, ⟨by decide, by decide⟩, ⟨.nil, trivial⟩, trivial⟩ (by decide)
  have cut : framed.segments = [.css "iframe", .css "p"] := by decide +kernel
  have missing (past : List Happening) : ∃ later, shownPage.Missing emptyPage framed.segments past later := by
    rw [cut]
    exact ⟨_, .here rfl⟩
  have vain (past : List Happening) : (perform emptyPage (shownPage.query framed false).run past).1 = .ok [] := by
    obtain ⟨later, missing⟩ := missing past
    rw [(shownPage.perform_query_eq_nil_iff framed).mpr missing]
  obtain ⟨-, ⟨finds, -⟩, waits⟩ := absence_reported served shownPage framed []
  obtain ⟨own, journal, settled⟩ := waits ⟨5, 2⟩ (by decide)
  have steady : Steady 0 own := by
    obtain ⟨same, written, steady⟩ := steady_emptyPage (shownPage.waitFor framed ⟨5, 2⟩).run []
    exact List.append_cancel_left (written.symm.trans journal) ▸ steady
  obtain ⟨begun, last, -, awaited⟩ := settled steady
  refine ⟨served, missing [], finds.named (vain []), by decide, ?_, awaited.carries fun past _ => vain past⟩
  rw [journal]
  exact steady

end RemoteDom
