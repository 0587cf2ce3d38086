import RemoteDom.Dom.Element
import RemoteDom.Proofs.Program.Traces

/-! Clicks. A click is a row of requests, each of which is made only after the one before went well, and the events of
the mouse are where the browser told last that the element is. -/

namespace RemoteDom

open ClientProgram (Leaves perform)

/-- Acts are done one after another until one goes wrong, which is then reported. -/
inductive OneByOne (wrong? : Happening → Option Error) : List Act → List Happening → Except Error Unit → Prop
  | done : OneByOne wrong? [] [] (.ok ())
  | stopped {act : Act} {answer : act.Answer} {error : Error} (later : List Act)
      (wrong : wrong? ⟨act, answer⟩ = some error) : OneByOne wrong? (act :: later) [⟨act, answer⟩] (.error error)
  | onward {act : Act} {answer : act.Answer} {later : List Act} {own : List Happening} {outcome : Except Error Unit}
      (well : wrong? ⟨act, answer⟩ = none) (rest : OneByOne wrong? later own outcome) :
      OneByOne wrong? (act :: later) (⟨act, answer⟩ :: own) outcome

namespace OneByOne

variable {wrong? : Happening → Option Error} {acts : List Act} {own : List Happening} {outcome : Except Error Unit}

theorem front (run : OneByOne wrong? acts own outcome) : own.map Happening.act <+: acts := by
  induction run with
  | done => exact List.nil_prefix
  | stopped later _ => exact ⟨later, rfl⟩
  | onward _ _ ih => exact List.cons_prefix_cons.mpr ⟨rfl, ih⟩

private theorem well_before_last (run : OneByOne wrong? acts own outcome) :
    ∀ happening ∈ own.dropLast, wrong? happening = none := by
  induction run with
  | done => exact List.forall_mem_nil _
  | stopped => exact List.forall_mem_nil _
  | @onward _ _ _ own _ well rest ih =>
      cases own with
      | nil => exact List.forall_mem_nil _
      | cons next more => exact List.forall_mem_cons.mpr ⟨well, ih⟩

private theorem stops (run : OneByOne wrong? acts own outcome) {happening : Happening} (member : happening ∈ own)
    {error : Error} (wrong : wrong? happening = some error) :
    own.getLast? = some happening ∧ outcome = .error error := by
  induction run with
  | done => cases member
  | stopped later first =>
      obtain rfl := List.mem_singleton.mp member
      obtain rfl := Option.some.inj (first.symm.trans wrong)
      exact ⟨rfl, rfl⟩
  | onward well _ ih =>
      rcases List.mem_cons.mp member with rfl | behind
      · cases well.symm.trans wrong
      · obtain ⟨last, reported⟩ := ih behind
        refine ⟨?_, reported⟩
        rw [List.getLast?_cons, last]
        rfl

theorem reported (run : OneByOne wrong? acts own outcome) {error : Error} (failed : outcome = .error error) :
    ∃ last, own.getLast? = some last ∧ wrong? last = some error := by
  induction run with
  | done => cases failed
  | stopped later wrong =>
      obtain rfl := Except.error.inj failed
      exact ⟨_, rfl, wrong⟩
  | onward _ _ ih =>
      obtain ⟨last, ends, wrong⟩ := ih failed
      refine ⟨last, ?_, wrong⟩
      rw [List.getLast?_cons, ends]
      rfl

private theorem ok_iff (run : OneByOne wrong? acts own outcome) :
    outcome = .ok () ↔ own.length = acts.length ∧ ∀ happening ∈ own, wrong? happening = none := by
  induction run with
  | done => simp
  | stopped later wrong => simp [wrong]
  | onward well _ ih => simp [ih, well]

end OneByOne

namespace Quad

variable {quad : Quad}

private theorem center?_eq_none_iff : quad.center? = none ↔ quad.numbers.length < 8 := by
  simp [center?]

/-- A quarter of the sum of numbers that are added one after another. -/
def quarterSum (numbers : List Binary64) : Binary64 :=
  .ofFloat (numbers.foldl (fun total number => total + number.toFloat) (-0.0) / 4)

/-- The point is a quarter of the sum of the abscissas and a quarter of the sum of the ordinates of at least four
corners. Behind the corners a single abscissa may stand. -/
def CentredAt (quad : Quad) (point : Binary64 × Binary64) : Prop :=
  ∃ (corners : List (Binary64 × Binary64)) (lone : List Binary64), 4 ≤ corners.length ∧ lone.length ≤ 1 ∧
    quad.numbers = corners.flatMap (fun corner => [corner.1, corner.2]) ++ lone ∧
    point = (quarterSum (corners.map Prod.fst ++ lone), quarterSum (corners.map Prod.snd))

private theorem exists_corners : (numbers : List Binary64) → ∃ (corners : List (Binary64 × Binary64))
    (lone : List Binary64), lone.length ≤ 1 ∧
      numbers = corners.flatMap (fun corner => [corner.1, corner.2]) ++ lone
  | [] => ⟨[], [], Nat.zero_le 1, rfl⟩
  | [x] => ⟨[], [x], Nat.le_refl 1, rfl⟩
  | x :: y :: rest => by
      obtain ⟨corners, lone, short, rfl⟩ := exists_corners rest
      exact ⟨(x, y) :: corners, lone, short, rfl⟩

private theorem abscissas_of_short {lone : List Binary64} (short : lone.length ≤ 1) : abscissas lone = lone := by
  match lone, short with
  | [], _ => rfl
  | [x], _ => rfl

private theorem abscissas_corners (corners : List (Binary64 × Binary64)) {lone : List Binary64}
    (short : lone.length ≤ 1) :
    abscissas (corners.flatMap (fun corner => [corner.1, corner.2]) ++ lone) = corners.map Prod.fst ++ lone := by
  induction corners with
  | nil => exact abscissas_of_short short
  | cons corner corners ih => exact congrArg (corner.1 :: ·) ih

private theorem abscissas_behind (y : Binary64) (corners : List (Binary64 × Binary64)) {lone : List Binary64}
    (short : lone.length ≤ 1) :
    abscissas (y :: (corners.flatMap (fun corner => [corner.1, corner.2]) ++ lone)) = y :: corners.map Prod.snd := by
  induction corners generalizing y with
  | nil =>
      match lone, short with
      | [], _ => rfl
      | [x], _ => rfl
  | cons corner corners ih => exact congrArg (y :: ·) (ih corner.2)

private theorem centredAt_of_center? {point : Binary64 × Binary64} (centre : quad.center? = some point) :
    quad.CentredAt point := by
  obtain ⟨numbers⟩ := quad
  obtain ⟨corners, lone, short, rfl⟩ := exists_corners numbers
  rw [center?] at centre
  split at centre
  next => cases centre
  next long =>
    have count : (corners.flatMap fun corner => [corner.1, corner.2]).length = 2 * corners.length := by
      simp [List.length_flatMap, List.map_const', Nat.mul_comm]
    rw [List.length_append, count] at long
    have four : 4 ≤ corners.length := by omega
    refine ⟨corners, lone, four, short, rfl, ?_⟩
    rw [← Option.some.inj centre, abscissas_corners corners short]
    cases corners with
    | nil => cases four
    | cons corner corners => exact congrArg (Prod.mk _) (congrArg quarterSum (abscissas_behind corner.2 corners short))

end Quad

namespace Element

variable (element : Element)

def clickSteps (button : MouseButton) (point : Binary64 × Binary64) : List Act :=
  [.request element.context.session (.scrollIntoView element.handle),
    .request element.context.session (.getBoxModel element.handle),
    .request element.context.session (.dispatchMouseEvent .moved point.1 point.2 .none 0),
    .request element.context.session (.dispatchMouseEvent .pressed point.1 point.2 button 1),
    .request element.context.session (.dispatchMouseEvent .released point.1 point.2 button 1)]

/-- What goes wrong with a step of a click: it is refused, or no box with four corners comes where one is asked for. -/
def mishap? : Happening → Option Error
  | ⟨.request _ _, .error error⟩ => some (error.toStale element.reference)
  | ⟨.request _ (.getBoxModel _), .ok answer⟩ =>
      match BoxModel.ofAnswer? answer with
      | none => some .json
      | some model =>
          if model.content.center?.isSome then none
          else some (.malformed ("empty content quad for " ++ element.reference.display))
  | _ => none

/-- The mouse is used at the centre of the content that the answer to the request for a box tells. -/
def Centred (own : List Happening) (point : Binary64 × Binary64) : Prop :=
  2 < own.length → ∃ answer model,
    own[1]? = some ⟨.request element.context.session (.getBoxModel element.handle), .ok answer⟩ ∧
      BoxModel.ofAnswer? answer = some model ∧ model.content.CentredAt point

/-- How a click goes: it takes the front of its steps, each but the last went well, and it fails as the last one
does. -/
structure Clicked (button : MouseButton) (own : List Happening) (outcome : Except Error Unit) : Prop where
  ordered : ∃ point, own.map Happening.act <+: element.clickSteps button point ∧ element.Centred own point
  patient : ∀ happening ∈ own.dropLast, element.mishap? happening = none
  completed : outcome = .ok () ↔ own.length = 5 ∧ ∀ happening ∈ own, element.mishap? happening = none
  cornerless : ∀ session answer model, ⟨.request session (.getBoxModel element.handle), .ok answer⟩ ∈ own →
    BoxModel.ofAnswer? answer = some model → model.content.numbers.length < 8 →
    own.length = 2 ∧ outcome = .error (.malformed ("empty content quad for " ++ element.reference.display))
  failed : ∀ error, outcome = .error error → ∃ last, own.getLast? = some last ∧ element.mishap? last = some error

variable {element : Element}

private theorem leaves_step {command : Command} {next : Json → Browsing Unit} {later : List Act}
    (well : ∀ session answer, element.mishap? ⟨.request session command, .ok answer⟩ = none)
    (rest : ∀ answer, Leaves (OneByOne element.mishap? later) (next answer).run) :
    Leaves (OneByOne element.mishap? (.request element.context.session command :: later))
      (element.execute command >>= next).run := by
  intro answer
  cases answer with
  | error error => exact .stopped later rfl
  | ok answer => exact (rest answer).weaken fun own outcome run => .onward (well _ answer) run

private theorem leaves_mouse (button : MouseButton) (x y : Binary64) :
    Leaves (OneByOne element.mishap? ((element.clickSteps button (x, y)).drop 2)) (do
      let _ ← element.execute (.dispatchMouseEvent .moved x y .none 0)
      let _ ← element.execute (.dispatchMouseEvent .pressed x y button 1)
      let _ ← element.execute (.dispatchMouseEvent .released x y button 1) : Browsing Unit).run :=
  leaves_step (fun _ _ => rfl) fun _ => leaves_step (fun _ _ => rfl) fun _ =>
    leaves_step (fun _ _ => rfl) fun _ => .done

private theorem leaves_click (button : MouseButton) :
    Leaves (fun own outcome => ∃ point, OneByOne element.mishap? (element.clickSteps button point) own outcome ∧
      element.Centred own point) (element.click button).run := by
  -- While no box has come nothing is done at a point, so any point will do.
  intro scrolled
  cases scrolled with
  | error error => exact ⟨default, .stopped _ rfl, nofun⟩
  | ok scrolled =>
      intro boxed
      cases boxed with
      | error error => exact ⟨default, .onward rfl (.stopped _ rfl), nofun⟩
      | ok answer =>
          show Leaves _ (Browsing.expect (BoxModel.ofAnswer? answer) >>= _).run
          cases readable : BoxModel.ofAnswer? answer with
          | none => exact ⟨default, .onward rfl (.stopped _ (by simp [mishap?, readable])), nofun⟩
          | some model =>
              have told : Browsing.expect (some model) = pure model := rfl
              rw [told, pure_bind]
              split
              next cornerless =>
                exact ⟨default, .onward rfl (.stopped _ (by simp [mishap?, readable, cornerless])), nofun⟩
              next x y central =>
                refine (leaves_mouse button x y).weaken fun own outcome run => ⟨(x, y), ?_, fun _ => ?_⟩
                · exact .onward rfl (.onward (by simp [mishap?, readable, central]) run)
                · exact ⟨answer, model, rfl, readable, Quad.centredAt_of_center? central⟩

private theorem length_eq_two_of_last {button : MouseButton} {point : Binary64 × Binary64} {own : List Happening}
    (front : own.map Happening.act <+: element.clickSteps button point) {last : Happening}
    (ends : own.getLast? = some last) {session : SessionId} {handle : Handle}
    (asks : last.act = .request session (.getBoxModel handle)) : own.length = 2 := by
  obtain ⟨before, rfl⟩ := List.getLast?_eq_some_iff.mp ends
  obtain ⟨rest, same⟩ := front
  rw [List.map_append, List.map_singleton, asks] at same
  match before with
  | [_] => rfl
  | [] | [_, _] | [_, _, _] | [_, _, _, _] | _ :: _ :: _ :: _ :: _ :: _ => simp [clickSteps] at same

/-- A click is one transaction in the session of the element. -/
theorem click_transaction (surroundings : Surroundings) (element : Element) (button : MouseButton)
    (past : List Happening) :
    ∃ own, (perform surroundings (element.click button).run past).2 = past ++ own ∧
      element.Clicked button own (perform surroundings (element.click button).run past).1 := by
  obtain ⟨own, journal, point, run, centred⟩ := (leaves_click button).perform surroundings past
  refine ⟨own, journal, ⟨point, run.front, centred⟩, run.well_before_last, run.ok_iff, ?_, fun _ => run.reported⟩
  intro session answer model member readable cornerless
  have centreless : model.content.center? = none := Quad.center?_eq_none_iff.mpr cornerless
  have wrong : element.mishap? ⟨.request session (.getBoxModel element.handle), .ok answer⟩ =
      some (.malformed ("empty content quad for " ++ element.reference.display)) := by
    simp [mishap?, readable, centreless]
  obtain ⟨ends, reported⟩ := run.stops member wrong
  exact ⟨length_eq_two_of_last run.front ends rfl, reported⟩

end Element

end RemoteDom
