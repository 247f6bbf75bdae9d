import Gradebook.Student

/-! Rankings of pupils. Their records are known, and every service that would compute them is refused. -/

namespace Gradebook

/-- Which students and marks a ranking is about. -/
structure RankingFilter where
  year : Option Int32 := none
  subjects : List Subject := []
  period : Option Period := none
  deriving DecidableEq, Repr

/-- A pupil's score over some subjects and a period, at a moment. -/
structure Rank where
  id : Int64
  score : UInt8
  position : Option UInt32 := none
  pid : PupilId
  subjects : List Subject
  period : Period
  generatedAt : Timestamp
  deriving DecidableEq, Repr

namespace Ranking

/-- What a ranking service can be asked for. -/
inductive Service where
  | report
  | evolution
  | backup
  | delete
  deriving DecidableEq, Repr

def Service.name : Service → String
  | .report => "generate rankings report"
  | .evolution => "view evolution"
  | .backup => "create backup rank"
  | .delete => "delete rank"

/-- The answer to every ranking service. -/
def refusal (service : Service) : Fault :=
  .notImplemented ("ranking: " ++ service.name ++ " is not implemented")

end Ranking

end Gradebook
