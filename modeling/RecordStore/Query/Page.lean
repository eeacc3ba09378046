import RecordStore.Record.Codec

/-!
Which part of the found rows is returned. A limit or an offset of zero is left out, and one with more digits than
can be written is refused.
-/

namespace RecordStore.Query

structure Page where
  limit : Nat := 0
  offset : Nat := 0
  deriving DecidableEq, Inhabited

namespace Page

def count (options : Value) (option : String) : Outcome Nat := do
  match ← options.field? option with
  | none | some .null => return 0
  | some (.int (.ofNat n)) => return n
  | some _ => throw (.ofError (.invalidOption (.text option) "expected a non-negative integer"))

def ofOptions (options : Value) : Outcome Page := do
  let limit ← count options "limit"
  let offset ← count options "offset"
  discard (Value.int limit).shownText
  discard (Value.int offset).shownText
  return ⟨limit, offset⟩

def parts (page : Page) : List String :=
  (if page.limit = 0 then [] else ["limit " ++ toString page.limit]) ++
    (if page.offset = 0 then [] else ["offset " ++ toString page.offset])

def text (page : Page) : String := " ".intercalate page.parts

end Page
end RecordStore.Query
