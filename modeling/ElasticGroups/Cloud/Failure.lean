import ElasticGroups.Cloud.Request

/-!
# Planned failures

A plan says which coming requests a store will fail. Every failure aims at the n-th coming request
of one kind. Each request of that kind brings all failures aimed at its kind one step closer; if
several are due, the one planned first fires, and the others stay due for the next requests.

## Main definitions

* `PlannedFailure`: one failure;
* `FailurePlan`, `FailurePlan.meet`: the plan, and what it does to one request.
-/

namespace ElasticGroups.Cloud

/-- A failure of a coming request. -/
structure PlannedFailure where
  /-- The kind of request that fails. -/
  operation : Operation
  /-- How many more requests of that kind make the failure due; zero when it is due already. -/
  remaining : Nat
  /-- How the request fails. -/
  error : ProviderError
  deriving DecidableEq, Repr, Inhabited

/-- The failures to come, in the order in which they were planned. -/
abbrev FailurePlan := List PlannedFailure

namespace FailurePlan

/-- Plan a failure of the n-th coming request of a kind. The count starts at one, and zero means
one. -/
def add (plan : FailurePlan) (operation : Operation) (nth : Nat) (error : ProviderError) :
    FailurePlan :=
  plan ++ [⟨operation, max nth 1, error⟩]

/-- Bring the failures of a kind one step closer. -/
def advance (operation : Operation) (plan : FailurePlan) : FailurePlan :=
  plan.map fun failure =>
    if failure.operation = operation then { failure with remaining := failure.remaining - 1 }
    else failure

/-- Take the first due failure of a kind out of a plan. -/
def takeDue (operation : Operation) : FailurePlan → Option ProviderError × FailurePlan
  | [] => (none, [])
  | failure :: rest =>
    if failure.operation = operation ∧ failure.remaining = 0 then (some failure.error, rest)
    else
      let (due, rest) := takeDue operation rest
      (due, failure :: rest)

/-- What the plan does to one request of a kind. -/
def meet (operation : Operation) (plan : FailurePlan) : Option ProviderError × FailurePlan :=
  takeDue operation (advance operation plan)

end FailurePlan

end ElasticGroups.Cloud
