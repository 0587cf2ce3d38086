import Mathlib.Algebra.Order.Floor.Div
import RemoteDom.Rehearsal.Looks

/-! Waiting while time passes only in looks and pauses. A look may take any time and come to anything; when the looks
begin follows from that. Each begins one interval after the end of the one before it, or at the deadline if that is
sooner, and a look in vain is the last only if it ends at the deadline or later. -/

namespace RemoteDom

variable {α σ τ : Type}

def Patience.verdict (operation : String) (patience : Patience) : Except Error (Option α) → Except Error α
  | .ok (some value) => .ok value
  | .ok none => .error (.timeout operation patience.shownTimeout)
  | .error error => .error error

/-! One look after another, whatever they remember. -/

section Steps

variable {look : ExceptT Error (StateT σ ExactTime) (Option α)} {state after : σ} {now later : Nat}

private theorem run_lookUntil_last {finding : Except Error (Option α)}
    (looked : (look.run.run state).run now = ((finding, after), later)) {deadline : Nat}
    (final : finding = .ok none → deadline ≤ later) (interval looks : Nat) :
    ((lookUntil deadline interval look (looks + 1)).run.run state).run now = ((finding, after), later) := by
  rw [lookUntil, ExceptT.run_bind, StateT.run_bind, StateT.run_bind, looked]
  match finding with
  | .ok (some value) => rfl
  | .error error => rfl
  | .ok none =>
      show (((if deadline ≤ later then pure none else _ :
        ExceptT Error (StateT σ ExactTime) (Option α)).run.run after).run later) = _
      rw [if_pos (final rfl)]
      rfl

private theorem run_lookUntil_again (looked : (look.run.run state).run now = ((.ok none, after), later))
    {deadline : Nat}
    (early : later < deadline) (interval looks : Nat) :
    ((lookUntil deadline interval look (looks + 1)).run.run state).run now =
      ((lookUntil deadline interval look looks).run.run after).run (min (later + interval) deadline) := by
  have next : later + min interval (deadline - later) = min (later + interval) deadline := by omega
  rw [lookUntil, ExceptT.run_bind, StateT.run_bind, StateT.run_bind, looked, ← next]
  show (((if deadline ≤ later then pure none
    else do
      Clock.sleep (min interval (deadline - later))
      lookUntil deadline interval look looks :
        ExceptT Error (StateT σ ExactTime) (Option α)).run.run after).run later) = _
  rw [if_neg (Nat.not_le.mpr early)]
  rfl

private theorem run_lookUntil_map {other : ExceptT Error (StateT τ ExactTime) (Option α)} {word : σ → τ}
    (same : ∀ state now, (other.run.run (word state)).run now =
      Prod.map (Prod.map id word) id ((look.run.run state).run now))
    (deadline interval looks : Nat) (state : σ) (now : Nat) :
    ((lookUntil deadline interval other looks).run.run (word state)).run now =
      Prod.map (Prod.map id word) id (((lookUntil deadline interval look looks).run.run state).run now) := by
  induction looks generalizing state now with
  | zero => rfl
  | succ looks ih =>
      rcases looked : (look.run.run state).run now with ⟨⟨finding, after⟩, later⟩
      have heard := same state now
      rw [looked] at heard
      by_cases more : finding = .ok none ∧ later < deadline
      · obtain ⟨rfl, early⟩ := more
        rw [run_lookUntil_again looked early, run_lookUntil_again heard early]
        exact ih after _
      · have final (vain : finding = .ok none) : deadline ≤ later :=
          Nat.not_lt.mp fun early => more ⟨vain, early⟩
        rw [run_lookUntil_last looked final, run_lookUntil_last heard final]
        rfl

private theorem run_pollOrFail (operation : String) {patience : Patience} {finding : Except Error (Option α)}
    (ran : ((lookUntil (now + patience.timeout) patience.interval look patience.looks).run.run state).run now =
      ((finding, after), later)) :
    ((pollOrFail operation patience look).run.run state).run now =
      ((patience.verdict operation finding, after), later) := by
  have polled : ((poll patience look).run.run state).run now = ((finding, after), later) := by
    rw [poll, ExceptT.run_bind, StateT.run_bind, StateT.run_bind]
    exact ran
  rw [pollOrFail, ExceptT.run_bind, StateT.run_bind, StateT.run_bind, polled]
  match finding with
  | .ok (some value) => rfl
  | .ok none => rfl
  | .error error => rfl

end Steps

/-! When looks begin. -/

/-- How long a look takes, and what it comes to. -/
structure Glance (α : Type) where
  time : Nat
  finding : Except Error (Option α)

/-- What every look comes to, by its number and by the time at which it begins. -/
abbrev Outlook (α : Type) : Type := Nat → Nat → Glance α

namespace Outlook

def finish (outlook : Outlook α) (number now : Nat) : Nat := now + (outlook number now).time

def look (outlook : Outlook α) : ExceptT Error (StateT (List Nat) ExactTime) (Option α) := do
  let now ← Clock.now
  let begun ← get
  set (begun ++ [now])
  Clock.sleep (outlook begun.length now).time
  ExceptT.mk (pure (outlook begun.length now).finding)

private theorem run_look (outlook : Outlook α) (begun : List Nat) (now : Nat) :
    (outlook.look.run.run begun).run now =
      (((outlook begun.length now).finding, begun ++ [now]), outlook.finish begun.length now) := rfl

/-- How a wait goes on with the look of a number that begins now: when this and the later looks begin, what comes of
them, and when the last one ends. -/
inductive Course (outlook : Outlook α) (deadline interval : Nat) :
    Nat → Nat → List Nat → Except Error (Option α) → Nat → Prop
  | last {number now : Nat} (final : (outlook number now).finding = .ok none → deadline ≤ outlook.finish number now) :
      Course outlook deadline interval number now [now] (outlook number now).finding (outlook.finish number now)
  | again {number now finished : Nat} {begun : List Nat} {finding : Except Error (Option α)}
      (vain : (outlook number now).finding = .ok none) (early : outlook.finish number now < deadline)
      (further : Course outlook deadline interval (number + 1) (min (outlook.finish number now + interval) deadline)
        begun finding finished) :
      Course outlook deadline interval number now (now :: begun) finding finished

/-- It is enough to look once for every interval up to the deadline, and once more. -/
private theorem exists_course (outlook : Outlook α) {deadline interval looks now : Nat} (begun : List Nat)
    (enough : deadline ≤ now + looks * interval) :
    ∃ behind finding finished, Course outlook deadline interval begun.length now behind finding finished ∧
      ((lookUntil deadline interval outlook.look (looks + 1)).run.run begun).run now =
        ((finding, begun ++ behind), finished) := by
  induction looks generalizing begun now with
  | zero =>
      have late : deadline ≤ outlook.finish begun.length now := by
        unfold finish
        omega
      exact ⟨[now], _, _, .last fun _ => late, run_lookUntil_last (outlook.run_look begun now) (fun _ => late) ..⟩
  | succ looks ih =>
      have looked := outlook.run_look begun now
      by_cases more : (outlook begun.length now).finding = .ok none ∧ outlook.finish begun.length now < deadline
      · obtain ⟨vain, early⟩ := more
        have enough' : deadline ≤ min (outlook.finish begun.length now + interval) deadline + looks * interval := by
          rw [Nat.succ_mul] at enough
          unfold finish
          omega
        obtain ⟨behind, finding, finished, course, ran⟩ := ih (begun ++ [now]) enough'
        rw [List.length_append, List.length_singleton] at course
        rw [vain] at looked
        refine ⟨now :: behind, finding, finished, .again vain early course, ?_⟩
        rw [run_lookUntil_again looked early, ran, List.append_assoc, List.singleton_append]
      · have final (vain : (outlook begun.length now).finding = .ok none) :
            deadline ≤ outlook.finish begun.length now := Nat.not_lt.mp fun early => more ⟨vain, early⟩
        exact ⟨[now], _, _, .last final, run_lookUntil_last looked final ..⟩

namespace Course

variable {outlook : Outlook α} {deadline interval number now finished : Nat} {begun : List Nat}
  {finding : Except Error (Option α)}

theorem first (course : Course outlook deadline interval number now begun finding finished) : begun[0]? = some now := by
  cases course <;> rfl

theorem timely (course : Course outlook deadline interval number now begun finding finished) (early : now ≤ deadline) :
    ∀ time ∈ begun, time ≤ deadline := by
  induction course with
  | last _ => simpa using early
  | again _ _ _ ih => exact List.forall_mem_cons.mpr ⟨early, ih (Nat.min_le_right ..)⟩

theorem length_le (course : Course outlook deadline interval number now begun finding finished) {pauses : Nat}
    (reach : deadline ≤ now + pauses * interval) : begun.length ≤ pauses + 1 := by
  induction course generalizing pauses with
  | last _ => exact Nat.le_add_left 1 pauses
  | @again number now _ _ _ _ early _ ih =>
      have longer : now ≤ outlook.finish number now := Nat.le_add_right _ _
      cases pauses with
      | zero => omega
      | succ pauses =>
          rw [Nat.succ_mul] at reach
          exact Nat.succ_le_succ (ih (by omega))

theorem next (course : Course outlook deadline interval number now begun finding finished) (place time : Nat)
    (found : begun[place]? = some time) (vain : (outlook (number + place) time).finding = .ok none)
    (early : outlook.finish (number + place) time < deadline) :
    begun[place + 1]? = some (min (outlook.finish (number + place) time + interval) deadline) := by
  induction course generalizing place with
  | last final =>
      cases place with
      | zero =>
          obtain rfl := Option.some.inj found
          exact absurd (final vain) (Nat.not_le.mpr early)
      | succ place => cases found
  | again _ _ further ih =>
      cases place with
      | zero =>
          obtain rfl := Option.some.inj found
          exact further.first
      | succ place =>
          rw [Nat.add_comm place 1, ← Nat.add_assoc] at vain early
          rw [Nat.add_comm place 1, ← Nat.add_assoc, Nat.add_comm 1 place]
          exact ih place found vain early

theorem before (course : Course outlook deadline interval number now begun finding finished) {place time : Nat}
    (found : begun[place]? = some time) (more : place + 1 < begun.length) :
    (outlook (number + place) time).finding = .ok none ∧ outlook.finish (number + place) time < deadline := by
  induction course generalizing place with
  | last _ => simp at more
  | again vain early _ ih =>
      cases place with
      | zero =>
          obtain rfl := Option.some.inj found
          exact ⟨vain, early⟩
      | succ place =>
          rw [← Nat.add_assoc, Nat.add_right_comm]
          exact ih found (Nat.lt_of_succ_lt_succ more)

theorem ends (course : Course outlook deadline interval number now begun finding finished) :
    ∃ place time, begun.length = place + 1 ∧ begun[place]? = some time ∧
      finding = (outlook (number + place) time).finding ∧ finished = outlook.finish (number + place) time ∧
      (finding = .ok none → deadline ≤ finished) := by
  induction course with
  | last final => exact ⟨0, _, rfl, rfl, rfl, rfl, final⟩
  | again _ _ _ ih =>
      obtain ⟨place, time, count, found, came, ended, final⟩ := ih
      rw [Nat.add_right_comm, Nat.add_assoc] at came ended
      exact ⟨place + 1, time, congrArg Nat.succ count, found, came, ended, final⟩

theorem unique (course : Course outlook deadline interval number now begun finding finished) {others : List Nat}
    {other : Except Error (Option α)} {ended : Nat}
    (again : Course outlook deadline interval number now others other ended) :
    begun = others ∧ finding = other ∧ finished = ended := by
  induction course generalizing others other ended with
  | last final =>
      cases again with
      | last _ => exact ⟨rfl, rfl, rfl⟩
      | again vain early _ => exact absurd (final vain) (Nat.not_le.mpr early)
  | again vain early _ ih =>
      cases again with
      | last final => exact absurd (final vain) (Nat.not_le.mpr early)
      | again _ _ further =>
          obtain ⟨rfl, rfl, rfl⟩ := ih further
          exact ⟨rfl, rfl, rfl⟩

end Course

end Outlook

/-! Whole waits. -/

structure Wait (α : Type) where
  outcome : Except Error α
  begun : List Nat
  finished : Nat

namespace Outlook

def wait (outlook : Outlook α) (operation : String) (patience : Patience) (start : Nat) : Wait α :=
  let ((outcome, begun), finished) := ((pollOrFail operation patience outlook.look).run.run []).run start
  ⟨outcome, begun, finished⟩

/-- The looks of a wait follow their schedule, and the last of them decides how it ends. -/
structure OnSchedule (outlook : Outlook α) (operation : String) (patience : Patience) (start : Nat) (wait : Wait α) :
    Prop where
  bounded : wait.begun.length ≤ patience.timeout ⌈/⌉ patience.interval + 1
  first : wait.begun[0]? = some start
  timely : ∀ time ∈ wait.begun, time ≤ start + patience.timeout
  next : ∀ number now, wait.begun[number]? = some now → (outlook number now).finding = .ok none →
    outlook.finish number now < start + patience.timeout →
    wait.begun[number + 1]? =
      some (min (outlook.finish number now + patience.interval) (start + patience.timeout))
  before : ∀ number now, wait.begun[number]? = some now → number + 1 < wait.begun.length →
    (outlook number now).finding = .ok none ∧ outlook.finish number now < start + patience.timeout
  last : ∃ number now, wait.begun.length = number + 1 ∧ wait.begun[number]? = some now ∧
    wait.finished = outlook.finish number now ∧
    ((∃ value, (outlook number now).finding = .ok (some value) ∧ wait.outcome = .ok value) ∨
      (∃ error, (outlook number now).finding = .error error ∧ wait.outcome = .error error) ∨
      (outlook number now).finding = .ok none ∧ start + patience.timeout ≤ wait.finished ∧
        wait.outcome = .error (.timeout operation patience.shownTimeout))

private theorem wait_eq (outlook : Outlook α) {operation : String} {patience : Patience} {start finished : Nat}
    {finding : Except Error (Option α)} {begun : List Nat}
    (ran : ((lookUntil (start + patience.timeout) patience.interval outlook.look patience.looks).run.run []).run start =
      ((finding, begun), finished)) :
    outlook.wait operation patience start = ⟨patience.verdict operation finding, begun, finished⟩ := by
  rw [wait, run_pollOrFail operation ran]

private theorem exists_course_more (outlook : Outlook α) {patience : Patience} (pausing : 0 < patience.interval)
    (start more : Nat) :
    ∃ begun finding finished,
      Course outlook (start + patience.timeout) patience.interval 0 start begun finding finished ∧
      ((lookUntil (start + patience.timeout) patience.interval outlook.look
          (patience.looks + more)).run.run []).run start = ((finding, begun), finished) := by
  have count : patience.looks + more = patience.timeout / patience.interval + 1 + more + 1 := by
    rw [Patience.looks, if_neg pausing.ne']
    omega
  have enough : start + patience.timeout ≤
      start + (patience.timeout / patience.interval + 1 + more) * patience.interval := by
    have whole := Nat.lt_div_mul_add (a := patience.timeout) pausing
    rw [Nat.add_mul, Nat.add_mul, Nat.one_mul]
    omega
  rw [count]
  exact outlook.exists_course [] enough

/-- The bound on the number of looks is not what ends a wait. -/
private theorem run_lookUntil_more (outlook : Outlook α) {patience : Patience} (pausing : 0 < patience.interval)
    (start more : Nat) :
    ((lookUntil (start + patience.timeout) patience.interval outlook.look
        (patience.looks + more)).run.run []).run start =
      ((lookUntil (start + patience.timeout) patience.interval outlook.look patience.looks).run.run []).run start := by
  obtain ⟨begun, finding, finished, course, ran⟩ := outlook.exists_course_more pausing start more
  obtain ⟨others, other, ended, again, run⟩ := outlook.exists_course_more pausing start 0
  obtain ⟨rfl, rfl, rfl⟩ := course.unique again
  exact ran.trans run.symm

private theorem exists_wait_course (outlook : Outlook α) (operation : String) {patience : Patience}
    (pausing : 0 < patience.interval) (start : Nat) :
    ∃ finding, Course outlook (start + patience.timeout) patience.interval 0 start
      (outlook.wait operation patience start).begun finding (outlook.wait operation patience start).finished ∧
      (outlook.wait operation patience start).outcome = patience.verdict operation finding := by
  obtain ⟨begun, finding, finished, course, ran⟩ := outlook.exists_course_more pausing start 0
  rw [outlook.wait_eq ran]
  exact ⟨finding, course, rfl⟩

private theorem onSchedule_wait (outlook : Outlook α) (operation : String) {patience : Patience}
    (pausing : 0 < patience.interval) (start : Nat) :
    OnSchedule outlook operation patience start (outlook.wait operation patience start) := by
  obtain ⟨finding, course, came⟩ := outlook.exists_wait_course operation pausing start
  have reach : start + patience.timeout ≤
      start + patience.timeout ⌈/⌉ patience.interval * patience.interval := by
    have whole := le_smul_ceilDiv (b := patience.timeout) pausing
    rw [smul_eq_mul, Nat.mul_comm] at whole
    exact Nat.add_le_add_left whole start
  refine ⟨course.length_le reach, course.first, course.timely (Nat.le_add_right ..),
    fun number now found vain early => ?_,
    fun number now found more => ?_, ?_⟩
  · have next := course.next number now found
    rw [Nat.zero_add] at next
    exact next vain early
  · have before := course.before found more
    rwa [Nat.zero_add] at before
  · obtain ⟨number, now, count, found, same, ended, final⟩ := course.ends
    rw [Nat.zero_add] at same ended
    refine ⟨number, now, count, found, ended, ?_⟩
    rw [came, ← same]
    match finding with
    | .ok (some value) => exact .inl ⟨value, rfl, rfl⟩
    | .error error => exact .inr (.inl ⟨error, rfl, rfl⟩)
    | .ok none => exact .inr (.inr ⟨rfl, final rfl, rfl⟩)

/-- Looks that take no time and find what there is when they begin. -/
def sampling (condition : Nat → Option α) : Outlook α := fun _ now => ⟨0, .ok (condition now)⟩

private theorem found_of_onSchedule {condition : Nat → Option α} {operation : String} {patience : Patience}
    {start : Nat}
    {wait : Wait α} (kept : OnSchedule (sampling condition) operation patience start wait) {since : Nat}
    (early : since ≤ start + patience.timeout) (lasting : ∀ time, since ≤ time → (condition time).isSome) :
    ∃ value, wait.outcome = .ok value := by
  obtain ⟨number, now, -, found, ended, ⟨value, -, came⟩ | ⟨error, failed, -⟩ | ⟨vain, late, -⟩⟩ := kept.last
  · exact ⟨value, came⟩
  · cases failed
  · -- The last look in vain began when it ended, at the deadline, when there was something to find.
    have nothing : condition now = none := Except.ok.inj vain
    have same : wait.finished = now := ended
    have there := lasting now (early.trans (same ▸ late))
    rw [nothing] at there
    cases there

/-- Every wait with a pause between its looks follows the schedule, which no other bound on the number of looks would
change; and what is there from a time on, the deadline at the latest, is found by looks that take no time. -/
theorem waits_on_schedule {patience : Patience} (pausing : 0 < patience.interval) (operation : String) (start : Nat) :
    (∀ outlook : Outlook α, OnSchedule outlook operation patience start (outlook.wait operation patience start) ∧
      ∀ more, ((lookUntil (start + patience.timeout) patience.interval outlook.look
          (patience.looks + more)).run.run []).run start =
        ((lookUntil (start + patience.timeout) patience.interval outlook.look patience.looks).run.run []).run start) ∧
    ∀ (condition : Nat → Option α) (since : Nat), since ≤ start + patience.timeout →
      (∀ time, since ≤ time → (condition time).isSome) →
      ∃ value, ((sampling condition).wait operation patience start).outcome = .ok value :=
  ⟨fun outlook => ⟨outlook.onSchedule_wait operation pausing start, outlook.run_lookUntil_more pausing start⟩,
    fun condition _ early lasting =>
      found_of_onSchedule ((sampling condition).onSchedule_wait operation pausing start) early lasting⟩

/-- Five units of time hold looks at the start, after two, after four and at the deadline. -/
theorem waits_on_schedule_truncated :
    0 < (⟨5, 2⟩ : Patience).interval ∧
      OnSchedule (sampling fun _ => (none : Option Nat)) "nothing" ⟨5, 2⟩ 0
        ((sampling fun _ => none).wait "nothing" ⟨5, 2⟩ 0) ∧
      ((sampling fun _ => (none : Option Nat)).wait "nothing" ⟨5, 2⟩ 0).begun = [0, 2, 4, 5] ∧
      ((sampling fun now => if 5 ≤ now then some now else none).wait "late" ⟨5, 2⟩ 0).outcome = .ok 5 :=
  ⟨by decide, ((waits_on_schedule (by decide) "nothing" 0).1 _).1, rfl, rfl⟩

end Outlook

namespace Rehearsal

def Look.glance (look : Look) : Glance Json :=
  match look.finding with
  | .nothing => ⟨look.time, .ok none⟩
  | .something value => ⟨look.time, .ok (some value)⟩
  | .failure message => ⟨look.time, .error (.script message)⟩

def outlook (looks : List Look) : Outlook Json := fun number _ => (looks[number]?.map Look.glance).getD ⟨0, .ok none⟩

private theorem run_takeLook (look : Look) (looks : List Look) (begun : List Nat) (now : Nat) :
    (takeLook.run.run ⟨look :: looks, begun⟩).run now =
      ((look.glance.finding, ⟨looks, now :: begun⟩), now + look.glance.time) := by
  obtain ⟨time, finding⟩ := look
  cases finding <;> rfl

def watch (looks : List Look) (begun : List Nat) : Watch := ⟨looks.drop begun.length, begun.reverse⟩

private theorem run_takeLook_watch (looks : List Look) (begun : List Nat) (now : Nat) :
    (takeLook.run.run (watch looks begun)).run now =
      Prod.map (Prod.map id (watch looks)) id (((outlook looks).look.run.run begun).run now) := by
  have noted : (begun ++ [now]).reverse = now :: begun.reverse := List.reverse_append
  rw [Outlook.run_look, Prod.map_apply, Prod.map_apply, watch, watch, Outlook.finish, noted, List.length_append,
    List.length_singleton]
  cases there : looks[begun.length]? with
  | none =>
      have past : looks.length ≤ begun.length := List.getElem?_eq_none_iff.mp there
      have nothing : outlook looks begun.length now = ⟨0, .ok none⟩ := by rw [outlook, there]; rfl
      rw [nothing, List.drop_eq_nil_of_le past, List.drop_eq_nil_of_le (past.trans (Nat.le_succ _))]
      rfl
  | some look =>
      obtain ⟨inside, same⟩ := List.getElem?_eq_some_iff.mp there
      have seen : outlook looks begun.length now = look.glance := by rw [outlook, there]; rfl
      rw [seen, List.drop_eq_getElem_cons inside, same, run_takeLook]
      rfl

/-- A rehearsed wait is a wait with the looks that it is told. -/
theorem rehearseWait_eq (operation : String) (patience : Patience) (looks : List Look) :
    rehearseWait operation patience looks =
      ⟨((outlook looks).wait operation patience 0).outcome, ((outlook looks).wait operation patience 0).begun,
        ((outlook looks).wait operation patience 0).finished⟩ := by
  rcases ran :
    ((lookUntil (0 + patience.timeout) patience.interval (outlook looks).look patience.looks).run.run []).run 0
    with ⟨⟨finding, begun⟩, finished⟩
  have told := run_lookUntil_map (run_takeLook_watch looks) (0 + patience.timeout) patience.interval patience.looks [] 0
  rw [ran] at told
  have settled : ((pollOrFail operation patience takeLook).run.run ⟨looks, []⟩).run 0 =
      ((patience.verdict operation finding, watch looks begun), finished) := run_pollOrFail operation told
  rw [Outlook.wait_eq _ ran, rehearseWait, settled, watch]
  simp

end Rehearsal

end RemoteDom
