import ElasticGroups.Session.Basic

/-!
# Polling

Waiting for an observation to hold: sleep one interval, observe, and repeat until the observation
holds, fails, or the time is up. The observation at the end of the last interval counts.

## Main definitions

* `Convergence`: how often to observe, and for how long;
* `PollError`: why the waiting ended without success;
* `Session.poll`: the waiting.
-/

namespace ElasticGroups

/-- How to wait for an observation. -/
structure Convergence where
  /-- The sleep before every observation. -/
  interval : Duration := .ofSeconds 1
  /-- The time after which no further observation is made. -/
  timeout : Duration := .ofSeconds 30
  deriving DecidableEq, Repr, Inhabited

/-- Why waiting ended without success. -/
inductive PollError (ε : Type)
  /-- The time was up. -/
  | timedOut (waited : Duration)
  /-- The observation failed. -/
  | failed (error : ε)
  deriving DecidableEq, Repr, Inhabited

/-- The failure in words. -/
def PollError.message {ε : Type} (wording : ε → String) : PollError ε → String
  | timedOut waited => "condition not met within " ++ waited.exactText
  | failed error => wording error

namespace Session

variable {Query : Type} {Reply : Query → Type} {ε : Type}

/-- Wait for an observation to hold, after having waited for some time already. Only the time that
the sleeps have lasted counts. A sleep that lasts no time would never use up the time, so such a
wait makes one observation. -/
def pollFrom (c : Convergence) (observe : Session Reply (Except ε Bool)) (waited : Duration) :
    Session Reply (Except (PollError ε) Unit) :=
  sleep c.interval fun lasted => observe.bind fun
    | .error error => done (.error (.failed error))
    | .ok true => done (.ok ())
    | .ok false =>
      -- Another observation is made only while the timeout has not passed.
      let waited' := waited + lasted
      if _h : waited'.nanos < c.timeout.nanos ∧ 0 < lasted.nanos then
        pollFrom c observe waited'
      else done (.error (.timedOut waited'))
termination_by c.timeout.nanos - waited.nanos
decreasing_by
  simp only [waited', Duration.nanos_add] at _h
  simp only [Duration.nanos_add]
  omega

/-- Wait for an observation to hold. -/
def poll (c : Convergence) (observe : Session Reply (Except ε Bool)) :
    Session Reply (Except (PollError ε) Unit) :=
  pollFrom c observe .zero

end Session

end ElasticGroups
