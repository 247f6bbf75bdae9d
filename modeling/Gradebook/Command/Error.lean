import Gradebook.Command.Settings
import Gradebook.Jobs.Status
import Gradebook.Store.Basic

/-! Why a command fails, what it says then, and the exit code that it leaves: 1 when it could not begin, 2
when the portal rejects the token, 4 for a mistake of the caller, 5 when the portal or the store fails,
and 130 for a cancelled job. -/

namespace Gradebook.Command

inductive Error where
  | settings (defect : Settings.Defect)
  | logging (reason : String)
  | store (error : Store.Error)
  | portal (error : Portal.Error)
  | service (fault : Fault)
  | jobFailed (id : Jobs.JobId) (fault : Fault)
  | jobCancelled (id : Jobs.JobId)
  deriving DecidableEq, Repr

namespace Error

def message : Error → String
  | .settings defect => defect.message
  | .logging reason => "Logging setup failed: " ++ reason
  | .store error => "Database error: " ++ error.message
  | .portal error => error.message
  | .service fault => fault.text
  | .jobFailed id fault => "Job " ++ toString id ++ " failed: " ++ fault.text
  | .jobCancelled id => "Job " ++ toString id ++ " was cancelled"

def codeOfKind : Fault.Kind → Nat
  | .unauthorized => 2
  | .invalid => 4
  | .notFound => 4
  | .conflict => 4
  | .internal => 5
  | .notImplemented => 1

def exitCode : Error → Nat
  | .settings _ => 1
  | .logging _ => 1
  | .store _ => 5
  | .portal error => codeOfKind error.kind
  | .service fault => codeOfKind fault.kind
  | .jobFailed _ fault => codeOfKind fault.kind
  | .jobCancelled _ => 130

end Error

end Gradebook.Command
