import Mathlib
import InventoryQuery.Proofs.Request.Defaults

/-! Queries made call by call. A call writes one field, and only a filter expression can
fail. So a chain of calls fails with the first expression that does not compile, and
otherwise each field of the request is what the last call for it has written; calls for
different fields may change places. -/
namespace InventoryQuery

namespace Query

inductive Field
  | columns
  | filter
  | pagination
  | sort
  | reports
  | snapshot

namespace Call

def field : Call → Field
  | .columns _ => .columns
  | .filter _ => .filter
  | .filterText _ => .filter
  | .pagination _ _ => .pagination
  | .sort _ _ => .sort
  | .reports _ => .reports
  | .snapshot _ => .snapshot

/-- A query with what a call writes and nothing else. -/
def writes : Call → Query
  | .columns names => { columns := some names }
  | .filter condition => { filter := some condition }
  | .filterText source => { filter := (Filter.compileText source).result.toOption }
  | .pagination start limit => { pagination := some ⟨start, limit⟩ }
  | .sort column order => { sort := some ⟨column, order⟩ }
  | .reports path => { reports := some path }
  | .snapshot id => { snapshot := some id }

def failure? : Call → Option Failure
  | .filterText source =>
    match (Filter.compileText source).result with
    | .ok _ => none
    | .error cause => some ⟨source, cause⟩
  | _ => none

end Call

/-- The failure of the first call that has one. -/
def firstFailure? (calls : List Call) : Option Failure := calls.findSome? Call.failure?

/-- What the last call that writes a field writes there. -/
def lastWritten? {α : Type} (field : Query → Option α) (calls : List Call) : Option α :=
  calls.reverse.findSome? fun call => field call.writes

theorem lastWritten?_cons {α : Type} (field : Query → Option α) (call : Call)
    (rest : List Call) :
    lastWritten? field (call :: rest) = (lastWritten? field rest).or (field call.writes) := by
  simp [lastWritten?, List.findSome?_append]

/-- A query under the fields that another one has. -/
def under (q later : Query) : Query where
  columns := later.columns.or q.columns
  filter := later.filter.or q.filter
  pagination := later.pagination.or q.pagination
  sort := later.sort.or q.sort
  reports := later.reports.or q.reports
  snapshot := later.snapshot.or q.snapshot

/-- The query that has in each field what the last call for it writes. -/
def lastOf (calls : List Call) : Query where
  columns := lastWritten? columns calls
  filter := lastWritten? filter calls
  pagination := lastWritten? pagination calls
  sort := lastWritten? sort calls
  reports := lastWritten? reports calls
  snapshot := lastWritten? snapshot calls

theorem under_lastOf_cons (q : Query) (call : Call) (rest : List Call) :
    (q.under call.writes).under (lastOf rest) = q.under (lastOf (call :: rest)) := by
  simp only [under, lastOf, lastWritten?_cons, Option.or_assoc]

theorem empty_under (q : Query) : under {} q = q := by
  simp only [under, Option.or_none]

theorem apply_result (q : Query) (call : Call) :
    (q.apply call).result =
      match call.failure? with
      | some failure => .error failure
      | none => .ok (q.under call.writes) := by
  cases call with
  | filterText source =>
    rw [apply, Call.failure?, Call.writes]
    rcases Filter.compileText source with ⟨events, cause | condition⟩ <;> rfl
  | columns | filter | pagination | sort | reports | snapshot => rfl

theorem applyAll_result (q : Query) (calls : List Call) :
    (q.applyAll calls).result =
      match firstFailure? calls with
      | some failure => .error failure
      | none => .ok (q.under (lastOf calls)) := by
  induction calls generalizing q with
  | nil => rfl
  | cons call rest ih =>
    rw [applyAll, Noted.bind_result, apply_result, firstFailure?, List.findSome?_cons]
    cases call.failure? with
    | some failure => rfl
    | none => rw [← under_lastOf_cons]; exact ih _

theorem ofCalls_result (calls : List Call) :
    (ofCalls calls).result =
      match firstFailure? calls with
      | some failure => .error failure
      | none => .ok (lastOf calls) := by
  rw [ofCalls, applyAll_result, empty_under]

/-- Calls in another order. Two neighbours may change places if they are for different
fields. -/
inductive Reordered : List Call → List Call → Prop
  | nil : Reordered [] []
  | cons (call : Call) {calls others : List Call} (rest : Reordered calls others) :
    Reordered (call :: calls) (call :: others)
  | swap {a b : Call} (apart : a.field ≠ b.field) (rest : List Call) :
    Reordered (a :: b :: rest) (b :: a :: rest)
  | trans {first second third : List Call} (one : Reordered first second)
    (two : Reordered second third) : Reordered first third

theorem apply_comm {a b : Call} (apart : a.field ≠ b.field) (q : Query) :
    (q.apply a >>= fun next => next.apply b) = q.apply b >>= fun next => next.apply a := by
  -- Two expressions are for one field, so at most one of the calls is more than an update.
  cases a <;> cases b <;>
    first
    | exact absurd rfl apart
    | simp only [apply, bind_assoc, pure_bind]

theorem Reordered.applyAll_eq {calls others : List Call} (reordered : Reordered calls others)
    (q : Query) : q.applyAll calls = q.applyAll others := by
  induction reordered generalizing q with
  | nil => rfl
  | cons call _ ih => simp only [applyAll, ih]
  | swap apart rest =>
    simp only [applyAll, ← bind_assoc, apply_comm apart]
  | trans _ _ one two => rw [one, two]

end Query

namespace Client

def prepareCalls (client : Client) (uri : String) (calls : List Query.Call) :
    Noted ClientError Request := do
  let q ← (Query.ofCalls calls).mapError fun failure => .filter failure.cause
  client.prepareUri uri q

/-- A chain of calls fails with its first filter expression that does not compile. Without
one there is a request, and each of its fields is what the last call for it has written;
calls for different fields may change places in the chain. -/
theorem prepareCalls_last (client : Client) (uri : String) (calls : List Query.Call) :
    (∀ failure, Query.firstFailure? calls = some failure →
      (Query.ofCalls calls).result = .error failure ∧
        (client.prepareCalls uri calls).result = .error (.filter failure.cause)) ∧
    (Query.firstFailure? calls = none →
      (client.prepareCalls uri calls).result = .ok
        { url := client.url uri
          body :=
            { snapshot := (Query.lastWritten? Query.snapshot calls).getD client.snapshot
              filters := (Query.lastWritten? Query.filter calls).getD .empty
              columns := Query.lastWritten? Query.columns calls
              pagination := Query.lastWritten? Query.pagination calls
              sort := Query.lastWritten? Query.sort calls
              reports := Query.lastWritten? Query.reports calls } }) ∧
    ∀ others, Query.Reordered calls others →
      client.prepareCalls uri others = client.prepareCalls uri calls := by
  refine ⟨fun failure first => ?_, fun good => ?_, fun others reordered => ?_⟩
  · have failed : (Query.ofCalls calls).result = .error failure := by
      rw [Query.ofCalls_result, first]
    refine ⟨failed, ?_⟩
    rw [prepareCalls, Noted.bind_result, Noted.mapError_result, failed]
    rfl
  · have asked : (Query.ofCalls calls).result = .ok (Query.lastOf calls) := by
      rw [Query.ofCalls_result, good]
    rw [prepareCalls, Noted.bind_result, Noted.mapError_result, asked]
    rfl
  · rw [prepareCalls, prepareCalls, Query.ofCalls, Query.ofCalls, reordered.applyAll_eq]

theorem prepareCalls_last_reordered :
    let calls : List Query.Call :=
      [.filterText "a = 1", .columns ["sn"], .filter greenParts, .columns ["ip"]]
    let others : List Query.Call :=
      [.columns ["sn"], .filterText "a = 1", .columns ["ip"], .filter greenParts]
    Query.Reordered calls others ∧
      (∃ request, (ofHost.prepareCalls "tables/x" others).result = .ok request ∧
        request.body.columns = some ["ip"] ∧ request.body.filters = greenParts ∧
        request.body.snapshot = "$last" ∧ request.body.sort = none) ∧
      (ofHost.prepareCalls "tables/x"
        [.filterText "a = 1", .filterText "b == 1", .filterText "c"]).result =
          .error (.filter (.unknownOperator "==" .plain 2)) := by
  intro calls others
  have reordered : Query.Reordered calls others :=
    .trans (.swap (by simp [Query.Call.field]) _)
      (.cons _ (.cons _ (.swap (by simp [Query.Call.field]) _)))
  have good : Query.firstFailure? calls = none := by cbv
  have first : Query.firstFailure? [.filterText "a = 1", .filterText "b == 1", .filterText "c"] =
      some ⟨"b == 1", .unknownOperator "==" .plain 2⟩ := by cbv
  obtain ⟨-, prepared, moved⟩ := prepareCalls_last ofHost "tables/x" calls
  obtain ⟨blamed, -, -⟩ := prepareCalls_last ofHost "tables/x" _
  have made := prepared good
  rw [← moved others reordered] at made
  exact ⟨reordered, ⟨_, made, rfl, rfl, rfl, rfl⟩, (blamed _ first).2⟩

end Client

end InventoryQuery
