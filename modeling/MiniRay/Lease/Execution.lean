/-! # Lease execution states -/

namespace MiniRay

/-- NodeManager-owned lifecycle of one granted worker lease. -/
inductive LeaseExecutionState
  | granted
  | running
  | completed
  | abandoned
  | workerLost
  deriving DecidableEq

namespace LeaseExecutionState

def value : LeaseExecutionState → String
  | .granted => "GRANTED"
  | .running => "RUNNING"
  | .completed => "COMPLETED"
  | .abandoned => "ABANDONED"
  | .workerLost => "WORKER_LOST"

def Live : LeaseExecutionState → Prop
  | .granted | .running => True
  | .completed | .abandoned | .workerLost => False

instance : DecidablePred Live := fun state => by
  cases state <;> unfold Live <;> infer_instance

end LeaseExecutionState

end MiniRay
