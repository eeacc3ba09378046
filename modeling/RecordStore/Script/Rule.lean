import RecordStore.Connector.Basic

/-!
Rules by which a scripted store answers. A rule fits calls by their text and, if it says so, by their
last value; the first one that fits answers, with rows or with a failure, and may be used up.
-/

namespace RecordStore.Script

structure Rule where
  text : String
  last : Option Value := none
  /-- How often the rule may still answer, if not for ever. -/
  left : Option Nat := none
  result : Outcome DriverResult

namespace Rule

def fits (rule : Rule) (text : String) (params : List Value) : Bool :=
  Text.occursIn rule.text text && rule.left != some 0 &&
    match rule.last with
    | none => true
    | some last => (params.getLast?.map last.equals).getD false

def used (rule : Rule) : Rule := { rule with left := rule.left.map (· - 1) }

end Rule

/-- What no rule answers returns no rows and affects none. -/
def unanswered : Outcome DriverResult := .ok { rowCount := some 0 }

def answerBy (text : String) (params : List Value) : List Rule → Outcome DriverResult × List Rule
  | [] => (unanswered, [])
  | rule :: rest =>
    if rule.fits text params then (rule.result, rule.used :: rest)
    else
      let (result, rest) := answerBy text params rest
      (result, rule :: rest)

end RecordStore.Script
