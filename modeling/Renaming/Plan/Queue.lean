import Renaming.Session

/-!
# Queued requests

Requests to a server that answers one at a time. The entities come first, and the parameters of a
method once it has its own answer, so methods with parameters are ready last.
-/

namespace Renaming

/-- An answered request has parameters to ask for. -/
def RenameRequest.asksMore (r : RenameRequest) (answer : Except OracleError String) : Bool :=
  answer.toBool && !r.parameterQuestions.isEmpty

/-- The results of requests in the order in which they are ready. -/
def planAll (oracle : Oracle σ) (requests : List RenameRequest) :
    StateM σ (Warned (List Event)) := do
  let answers ← requests.mapM fun r => oracle.suggest r.question
  let (late, early) := (requests.zip answers).partition fun (r, answer) => r.asksMore answer
  let plans ← (early ++ late).mapM fun (r, answer) => r.finish oracle answer
  return ⟨plans.map fun plan => .planned plan.value, plans.flatMap (·.warnings)⟩

/-- The result of a review of a module. -/
def reviewModule (oracle : Oracle σ) (code : String) : StateM σ (Warned (List Event)) := do
  let result ← oracle.analyze code
  return result.map fun result => [.analyzed result]

end Renaming
