import Offload.Coded
import Offload.NativeError
import Offload.Text.Radix

/-! How far the compilation of a program, or the command behind an event, has come. -/
namespace Offload

inductive BuildStatus where
  | success | none | error | inProgress
  deriving DecidableEq, Repr

namespace BuildStatus

def all : List BuildStatus := [.success, .none, .error, .inProgress]

def code : BuildStatus → Int
  | .success => 0 | .none => -1 | .error => -2 | .inProgress => -3

def label : BuildStatus → String
  | .success => "Success" | .none => "None" | .error => "Error" | .inProgress => "InProgress"

instance : Labelled BuildStatus where
  members := all
  code := code
  label := label
  name := label
  mem_members := by intro status; cases status <;> decide
  nodup_codes := by decide

end BuildStatus

/-- A status that is not listed is the failure with that code. -/
inductive ExecutionStatus where
  | queued | submitted | running | complete
  | error (code : Int)
  deriving DecidableEq, Repr

namespace ExecutionStatus

/-- The codes of the listed statuses. -/
def completeCode : Int := 0
def runningCode : Int := 1
def submittedCode : Int := 2
def queuedCode : Int := 3

def ofRaw (raw : Int) : ExecutionStatus :=
  if raw = queuedCode then .queued
  else if raw = submittedCode then .submitted
  else if raw = runningCode then .running
  else if raw = completeCode then .complete
  else .error raw

/-- A status that is not above zero is complete, or a failure. -/
theorem ofRaw_of_nonpos {raw : Int} (small : raw ≤ 0) :
    ofRaw raw = if raw = 0 then .complete else .error raw := by
  have other : raw ≠ queuedCode ∧ raw ≠ submittedCode ∧ raw ≠ runningCode := by
    simp only [queuedCode, submittedCode, runningCode]
    omega
  obtain ⟨queued, submitted, running⟩ := other
  rw [ofRaw, if_neg queued, if_neg submitted, if_neg running, completeCode]

/-- Nothing more happens to the command. -/
def isTerminal : ExecutionStatus → Bool
  | .complete | .error _ => true
  | _ => false

def text : ExecutionStatus → String
  | .queued => "Queued"
  | .submitted => "Submitted"
  | .running => "Running"
  | .complete => "Complete"
  | .error code => "Error(" ++ Text.signedDecimal code ++ ")"

end ExecutionStatus
end Offload
