import RecordStore.Error.Failure

/-!
Why a YAML text has no value: it is not well formed, or a part of it stands for something that there is
not, such as the thirtieth of February.
-/

namespace RecordStore.Script.Yaml

/-- A part of a date that no calendar has, or a distance of a day or more from universal time. -/
inductive DatePart where
  | year (n : Nat)
  | month
  | day
  | hour
  | minute
  | second
  | zone (minutes : Int)
  deriving DecidableEq, Inhabited

namespace DatePart

def text : DatePart → String
  | year n => "year " ++ toString n ++ " is out of range"
  | month => "month must be in 1..12"
  | day => "day is out of range for month"
  | hour => "hour must be in 0..23"
  | minute => "minute must be in 0..59"
  | second => "second must be in 0..59"
  | zone minutes =>
    let days := minutes / 1440
    let seconds := minutes % 1440 * 60
    let parts := (if days = 0 then [] else ["days=" ++ toString days]) ++
      (if seconds = 0 then [] else ["seconds=" ++ toString seconds])
    "offset must be a timedelta strictly between -timedelta(hours=24) and timedelta(hours=24), " ++
      "not datetime.timedelta(" ++ ", ".intercalate parts ++ ")."

end DatePart

inductive Fault where
  | malformed
  | raised (failure : Failure)

namespace Fault

instance : Inhabited Fault := ⟨malformed⟩

def ofMalformed (fault : Malformed) : Fault := raised (.ofMisuse (.malformed fault))

def foreign (name : String) (message : Text) : Fault := raised (.mk (.reported (.foreign name) message) {} none none)

end Fault
end RecordStore.Script.Yaml
