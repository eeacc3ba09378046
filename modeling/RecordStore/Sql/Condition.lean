import RecordStore.Sql.Fragment

/-!
Conditions on rows: tests of single columns, joined by "and" and "or" and turned around by "not". Joined
and negated conditions are always put in parentheses.
-/

namespace RecordStore.Sql

/-- What a bound is compared with: the column itself, or the number of elements of an array column. -/
structure Operand where
  column : Identifier
  isLength : Bool
  deriving DecidableEq

def lengthText (column : Identifier) : String :=
  "coalesce(array_length(" ++ column.quoted ++ ", 1), 0)"

namespace Operand

def text (operand : Operand) : String :=
  if operand.isLength then lengthText operand.column else operand.column.quoted

end Operand

inductive Test where
  | always
  | never
  | equal (column : Identifier) (value : Slot)
  | oneOf (column : Identifier) (values : List Slot)
  | holdsAll (column : Identifier) (values : List Slot)
  | atLeast (operand : Operand) (bound : Slot)
  | atMost (operand : Operand) (bound : Slot)
  | isSet (column : Identifier)
  | isUnset (column : Identifier)
  | hasElements (column : Identifier)
  | hasNoElements (column : Identifier)
  | like (column : Identifier) (pattern : Slot)
  | anyLike (column : Identifier) (pattern : Slot)
  deriving DecidableEq

namespace Test
open Fragment

def fragment : Test → Fragment
  | always => ofText "true"
  | never => ofText "false"
  | equal column value => ofText (column.quoted ++ " = ") ++ value.fragment
  | oneOf column values => ofText (column.quoted ++ " in (") ++ ofSlots values ++ ofText ")"
  | holdsAll column values => ofText (column.quoted ++ " @> array[") ++ ofSlots values ++ ofText "]"
  | atLeast operand bound => ofText (operand.text ++ " >= ") ++ bound.fragment
  | atMost operand bound => ofText (operand.text ++ " <= ") ++ bound.fragment
  | isSet column => ofText (column.quoted ++ " is not null")
  | isUnset column => ofText (column.quoted ++ " is null")
  | hasElements column => ofText (lengthText column ++ " > 0")
  | hasNoElements column => ofText (lengthText column ++ " = 0")
  | like column pattern => ofText (column.quoted ++ " ilike ") ++ pattern.fragment
  | anyLike column pattern =>
    ofText ("exists (select 1 from unnest(" ++ column.quoted ++ ") as x where x::text ilike ") ++
      pattern.fragment ++ ofText ")"

end Test

inductive Connective where
  | all
  | any
  deriving DecidableEq

def Connective.word : Connective → String
  | all => " and "
  | any => " or "

inductive Condition where
  | test (test : Test)
  | joined (connective : Connective) (parts : List Condition)
  | negated (inner : Condition)

namespace Condition

mutual

def fragment : Condition → Fragment
  | test t => t.fragment
  | joined connective parts => .text "(" :: (joinFragments connective.word parts ++ [.text ")"])
  | negated inner => .text "not (" :: (fragment inner ++ [.text ")"])

def joinFragments (word : String) : List Condition → Fragment
  | [] => []
  | [part] => fragment part
  | part :: rest => fragment part ++ .text word :: joinFragments word rest

end

def sql (condition : Condition) : String := Fragment.sql condition.fragment

def conjunction? : List Condition → Option Condition
  | [] => none
  | [condition] => some condition
  | conditions => some (joined .all conditions)

def whereFragment? (conditions : List Condition) : Option Fragment :=
  if conditions.isEmpty then none else some (joinFragments Connective.all.word conditions)

def joined? (connective : Connective) (parts : List Condition) : List Condition :=
  if parts.isEmpty then [] else [joined connective parts]

end Condition
end RecordStore.Sql
