import RecordStore.Value.Literal

/-!
What comes back from the store and from searches.
-/

namespace RecordStore

/-- The outcome of one statement: the rows it returned and, if the store tells it, how many rows it
affected. -/
structure StatementResult where
  rows : List Value := []
  rowCount : Option Int := some 0
  deriving Inhabited

/-- A page of found records and the number of all records that fit. -/
structure Found where
  records : List Value := []
  count : Int := 0
  deriving Inhabited

namespace Found

def text (found : Found) : String :=
  "FoundRecords(" ++ (Value.list found.records).literal ++ ", count=" ++ toString found.count ++ ")"

end Found
end RecordStore
