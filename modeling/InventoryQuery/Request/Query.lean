import InventoryQuery.Filter.Compile
import InventoryQuery.Request.Table

/-! What a caller asks of a table. A query is made by a series of calls, each of
which sets one field; a field that no call sets is left to the defaults. -/
namespace InventoryQuery

structure Pagination where
  start : Nat
  limit : Nat
deriving DecidableEq, Repr

structure Query where
  columns : Option (List String) := none
  filter : Option Document := none
  pagination : Option Pagination := none
  sort : Option SortKey := none
  reports : Option String := none
  snapshot : Option String := none

namespace Query

inductive Call
  | columns (names : List String)
  | filter (condition : Document)
  | filterText (source : String)
  | pagination (start limit : Nat)
  | sort (column : String) (order : SortOrder)
  | reports (path : String)
  | snapshot (id : String)

structure Failure where
  source : String
  cause : Filter.FilterError

/-- Only a filter expression can fail. -/
def apply (q : Query) : Call → Noted Failure Query
  | .columns names => pure { q with columns := some names }
  | .filter condition => pure { q with filter := some condition }
  | .filterText source => do
    let condition ← (Filter.compileText source).mapError (Failure.mk source)
    return { q with filter := some condition }
  | .pagination start limit => pure { q with pagination := some ⟨start, limit⟩ }
  | .sort column order => pure { q with sort := some ⟨column, order⟩ }
  | .reports path => pure { q with reports := some path }
  | .snapshot id => pure { q with snapshot := some id }

def applyAll (q : Query) : List Call → Noted Failure Query
  | [] => pure q
  | call :: rest => do
    let next ← q.apply call
    next.applyAll rest

def ofCalls (calls : List Call) : Noted Failure Query := applyAll {} calls

end Query

end InventoryQuery
