import Delivery.Json.Codec
import Delivery.Text.Blank
set_option autoImplicit false

namespace Delivery

-- A name with blanks at its ends, underscores, hyphens and spaces left out, in small letters. Only ASCII
-- letters are lowered: no other letter lowers to a letter of a name that is looked up.
def looseName (text : String) : List Char :=
  ((Text.trimChars text.toList).filter fun c => c ≠ '_' ∧ c ≠ '-' ∧ c ≠ ' ').map Char.toLower

inductive DataSource where
  | ciRunner
  | gocd
  | external
  deriving DecidableEq, Repr

namespace DataSource

def name : DataSource → String
  | .ciRunner => "CiRunner"
  | .gocd => "Gocd"
  | .external => "External"

def all : List DataSource := [.ciRunner, .gocd, .external]

def storedName : DataSource → String
  | .ciRunner => "CI-RUNNER"
  | .gocd => "GOCD"
  | .external => "EXTERNAL"

def ofName? (text : String) : Option DataSource :=
  all.find? fun source => looseName source.storedName = looseName text

def codec : Codec DataSource := Codec.variant name all

instance : Inhabited DataSource := ⟨.external⟩

end DataSource

inductive WorkflowStatus where
  | pending
  | running
  | succeeded
  | failed
  | error
  deriving DecidableEq, Repr

namespace WorkflowStatus

def name : WorkflowStatus → String
  | .pending => "Pending"
  | .running => "Running"
  | .succeeded => "Succeeded"
  | .failed => "Failed"
  | .error => "Error"

def all : List WorkflowStatus := [.pending, .running, .succeeded, .failed, .error]

def aliases : List (String × WorkflowStatus) := [("success", .succeeded), ("failure", .failed)]

def ofName? (text : String) : Option WorkflowStatus :=
  let spellings := all.map (fun status => (status.name, status)) ++ aliases
  (spellings.find? fun entry => looseName entry.1 = looseName text).map (·.2)

def isTerminal : WorkflowStatus → Bool
  | .pending | .running => false
  | .succeeded | .failed | .error => true

-- Whether a run may go from one status to the next. A status that is not terminal may be set again; a
-- terminal one is written once.
def mayBecome (current next : WorkflowStatus) : Bool :=
  if current.isTerminal then false
  else current == next || next.isTerminal || (current == .pending && next == .running)

def codec : Codec WorkflowStatus := Codec.variant name all

instance : Inhabited WorkflowStatus := ⟨.pending⟩

end WorkflowStatus

inductive TriggerMode where
  | manual
  | automatic
  deriving DecidableEq, Repr

namespace TriggerMode

def name : TriggerMode → String
  | .manual => "Manual"
  | .automatic => "Automatic"

def all : List TriggerMode := [.manual, .automatic]

def isManual (mode : TriggerMode) : Bool := mode == .manual

def codec : Codec TriggerMode := Codec.variant name all

end TriggerMode

inductive CdStage where
  | preDeploy
  | deploy
  | postDeploy
  deriving DecidableEq, Repr

namespace CdStage

def name : CdStage → String
  | .preDeploy => "PreDeploy"
  | .deploy => "Deploy"
  | .postDeploy => "PostDeploy"

def all : List CdStage := [.preDeploy, .deploy, .postDeploy]

def label : CdStage → String
  | .preDeploy => "PRE"
  | .deploy => "DEPLOY"
  | .postDeploy => "POST"

def codec : Codec CdStage := Codec.variant name all

end CdStage

end Delivery
