import RemoteDom.Dom.Query
import RemoteDom.Proofs.Program.Journal
import RemoteDom.Proofs.Selector.Segments

/-! Following a locator that crosses frames by hand, one frame after another. -/

namespace RemoteDom.Scope

/-- Follows locators by hand: each but the last is searched for a frame, whose content is the scope of the
next. A locator that finds no frame ends the search. -/
def chain (scope : Scope) (all : Bool) : List Locator → Browsing (List Element)
  | [] => pure []
  | [last] => scope.query last all
  | frame :: further => do
      match ← scope.query frame false with
      | [] => pure []
      | owner :: _ => chain (← owner.contentScope) all further

private theorem check_check (scope : Scope) (dialect : Dialect) {α : Type} (operation : Browsing α) :
    (do
      ExceptT.mk (pure (scope.check dialect))
      ExceptT.mk (pure (scope.check dialect))
      operation) =
    (do
      ExceptT.mk (pure (scope.check dialect))
      operation) := by
  cases scope.check dialect <;> rfl

private theorem query_of_single {locator : Locator} (single : locator.segments = [locator]) (scope : Scope)
    (all : Bool) : scope.query locator all = scope.queryHere locator all := by
  rw [query, single, queryThrough]
  unfold queryHere
  exact check_check scope locator.dialect _

private theorem queryThrough_eq_chain {segments : List Locator}
    (single : ∀ segment ∈ segments, segment.segments = [segment]) (scope : Scope) (all : Bool) :
    scope.queryThrough all segments = scope.chain all segments := by
  induction segments generalizing scope with
  | nil => rfl
  | cons segment rest ih =>
      have here := query_of_single (single segment List.mem_cons_self) scope
      cases rest with
      | nil => rw [queryThrough, chain, here]
      | cons next further =>
          have onward := ih fun other member => single other (List.mem_cons_of_mem segment member)
          rw [queryThrough, chain, here]
          · refine bind_congr fun found => ?_
            cases found with
            | nil => rfl
            | cons owner others => exact bind_congr fun inside => onward inside
          all_goals simp

/-- The chain begins with the check of its first segment, so that the check may as well be made before. -/
private theorem check_chain {segment : Locator} (further : List Locator) (scope : Scope) (all : Bool) :
    (do
      ExceptT.mk (pure (scope.check segment.dialect))
      scope.chain all (segment :: further)) = scope.chain all (segment :: further) := by
  have begins (all : Bool) : (do
      ExceptT.mk (pure (scope.check segment.dialect))
      scope.query segment all) = scope.query segment all := by
    unfold query
    exact check_check scope segment.dialect _
  cases further with
  | nil => exact begins all
  | cons next more =>
      rw [chain]
      · rw [← begins false]
        simp only [bind_assoc]
        exact check_check scope segment.dialect _
      · simp

/-- A locator that crosses frames is followed as one would follow its segments by hand. The two are the
same program: they act alike, and they give the same whatever the answers are. -/
private theorem query_eq_chain (scope : Scope) (locator : Locator) (all : Bool) :
    scope.query locator all = scope.chain all locator.segments := by
  have single : ∀ segment ∈ locator.segments, segment.segments = [segment] :=
    fun _ member => Locator.segments_of_mem_segments member
  rw [query, queryThrough_eq_chain single]
  cases cut : locator.segments with
  | nil => exact absurd cut locator.segments_ne_nil
  | cons segment further =>
      have same : segment.dialect = locator.dialect :=
        Locator.dialect_of_mem_segments (cut ▸ List.mem_cons_self)
      rw [← same]
      exact check_chain further scope all

/-- In all surroundings, whatever has happened before, a locator that crosses frames has the outcome that
one gets by hand, and what happens meanwhile, the commands that are sent among it, is the same. Each segment
is followed in one document, also where one could follow it across frames. -/
theorem perform_query_eq_chain (surroundings : Surroundings) (past : List Happening) (scope : Scope)
    (locator : Locator) (all : Bool) :
    ClientProgram.perform surroundings (scope.query locator all).run past =
        ClientProgram.perform surroundings (scope.chain all locator.segments).run past ∧
      ∀ segment ∈ locator.segments, segment.segments = [segment] ∧
        ∀ (inside : Scope) (every : Bool), inside.query segment every = inside.queryHere segment every := by
  refine ⟨by rw [query_eq_chain], fun segment member => ?_⟩
  have single := Locator.segments_of_mem_segments member
  exact ⟨single, fun inside every => query_of_single single inside every⟩

end RemoteDom.Scope
