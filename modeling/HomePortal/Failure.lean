import HomePortal.Checked
/-!
Why a call fails: the draft, the caller's scope, the hub, or data that an operation has no rule
for.
-/

namespace HomePortal

inductive DraftError where
  | invalid (first : Problem) (more : List Problem)
  | unsupported (first : Problem) (more : List Problem)
  | emptyId
  | missingId
  | enabledNotBoolean
  deriving DecidableEq

namespace DraftError

def message : DraftError → String
  | invalid .. => "Invalid automation payload"
  | unsupported .. => "Automation is not supported by the selected devices"
  | emptyId => "Invalid automation id"
  | missingId => "Missing automation id"
  | enabledNotBoolean => "enabled must be provided as boolean"

def texts : DraftError → List String
  | invalid first more | unsupported first more => (first :: more).map Problem.text
  | e => [e.message]

end DraftError

inductive Denial where
  | outOfScope
  | noAccess
  deriving DecidableEq

def Denial.message : Denial → String
  | outOfScope => "This automation involves devices outside your areas or uses templates."
  | noAccess => "You do not have permission to manage automations."

inductive HubErrorKind where
  | general
  | notFound
  | path
  | content
  deriving DecidableEq

inductive HubError where
  | unreachable (reason : String)
  | failed (status : Nat)
  | notJson (status : Nat)
  | unexpectedStates
  | unexpectedConfig (id : String)
  | noConfig (path : String)
  | noAutomation (id : String)
  | taken (id : String)
  | notList (file : String)
  | notYaml
  | inaccessible
  | emptyName
  | outside (name : String)
  deriving DecidableEq

namespace HubError

def message : HubError → String
  | unreachable reason => "Hub unreachable: " ++ reason
  | failed status => "Hub request failed (" ++ toString status ++ ")"
  | notJson _ => "Hub returned invalid JSON"
  | unexpectedStates => "Unexpected /api/states payload"
  | unexpectedConfig id => "Unexpected config payload for " ++ id
  | noConfig path => "Not found: " ++ path
  | noAutomation id => "Automation not found: " ++ id
  | taken id => "Automation already exists: " ++ id
  | notList file => file ++ " must contain a list of automations"
  | notYaml => "Invalid YAML"
  | inaccessible => "OSError"
  | emptyName => "Automations file name is empty"
  | outside name => "Path outside config directory: " ++ name

def status? : HubError → Option Nat
  | failed status | notJson status => some status
  | noConfig _ | noAutomation _ => some 404
  | taken _ => some 409
  | _ => none

def kind : HubError → HubErrorKind
  | noConfig _ | noAutomation _ => .notFound
  | emptyName | outside _ => .path
  | notList _ | notYaml => .content
  | _ => .general

end HubError

inductive Fault where
  | typeMismatch
  | noField
  | badValue
  | overflow
  | unknownKey
  | outOfRange
  | undecodable
  | unencodable
  | closed
  | badAddress
  | tooDeep
  deriving DecidableEq

inductive Failure where
  | draft (e : DraftError)
  | denied (d : Denial)
  | noRule (subject : String)
  | hub (e : HubError)
  | data (first : Problem) (more : List Problem)
  | fault (f : Fault)
  deriving DecidableEq

/-- The text that a caller is shown; bad data and faults have none. -/
def Failure.message? : Failure → Option String
  | draft e => some e.message
  | denied d => some d.message
  | noRule subject => some ("No compile rule for " ++ subject)
  | hub e => some e.message
  | data .. | fault _ => none

def Checked.orFail {α : Type} (wrap : Problem → List Problem → Failure) :
    Checked α → Except Failure α
  | valid a => .ok a
  | refused first more => .error (wrap first more)
  | overflow => .error (.fault .overflow)

end HomePortal
