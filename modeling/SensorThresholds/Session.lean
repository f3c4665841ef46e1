import SensorThresholds.Lookup

/-!
Several calls over one source and one sink. The sink goes on from call to call, and a call that
fails does not keep the next one from being made.
-/

namespace SensorThresholds

inductive Call where
  | run (input : String)
  | resolve (input : String)
  | report (reference : String)
  deriving DecidableEq, Repr

inductive Reply where
  | done
  | targets (set : TargetSet)
  | report (report : Report)

namespace Lookup

variable {σ : Type}

def perform (l : Lookup σ) : Call → Action σ Reply
  | .run input => do
    l.run input
    return .done
  | .resolve input => .targets <$> l.resolve input
  | .report reference => .report <$> l.fetchAndReport reference

/-- The outcomes of calls made in turn, each from the state that the one before it left. -/
def session (l : Lookup σ) (state : σ) : List Call → List (Outcome Event Failure σ Reply)
  | [] => []
  | call :: rest =>
    let outcome := l.perform call state
    outcome :: session l outcome.state rest

end Lookup
end SensorThresholds
