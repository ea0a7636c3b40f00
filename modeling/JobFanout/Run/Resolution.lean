import JobFanout.ParamVector.Evaluation
import JobFanout.Run.Journal
/-!
Resolution on its own, outside any run. Its only trace is the list of API calls made.
-/
namespace JobFanout

/-- How far a resolution has come. Calls are kept latest first. -/
structure Trace where
  queried : Nat := 0
  invocations : List Invocation := []

namespace Resolution

def query (snapshots : Nat → Except String (List Json)) :
    StateM Trace (Except String (List Json)) :=
  modifyGet fun trace => (snapshots trace.queried, { trace with queried := trace.queried + 1 })

def callSource (api : Api) (identity : Identity) : CallSource Trace := fun method params trace =>
  let invocation : Invocation := ⟨identity, method, params⟩
  ((api trace.invocations invocation).mapError CallError.message,
    { trace with invocations := invocation :: trace.invocations })

def surroundings (snapshots : Nat → Except String (List Json)) (api : Option Api)
    (identity : Identity) : Surroundings Trace where
  objects := query snapshots
  calls := api.map fun api => callSource api identity

def resolved {α : Type} (computation : Evaluation Trace α) :
    Except ResolveError α × List Invocation :=
  let (result, trace) := computation.run.run {}
  (result, trace.invocations.reverse)

def value (around : Surroundings Trace) (vector : ParamVector) :
    Except ResolveError Json × List Invocation :=
  resolved (ParamVector.evaluate around vector)

def records (around : Surroundings Trace) (vector : Option ParamVector) :
    Except ResolveError (List Record) × List Invocation :=
  resolved (ParamVector.records around vector)

end Resolution
end JobFanout
