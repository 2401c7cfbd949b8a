import ElasticGroups.Cloud.InstanceGroup

/-!
# Provider requests

The requests that a provider serves, what it answers to each, and why it may refuse. Nothing is
assumed about a provider here: any reply may follow any request.

## Main definitions

* `ProviderError`: why a request failed;
* `Operation`: the kinds of requests;
* `Request`, `Request.Answer`, `Reply`: a request, the type of its answer, and the type of its
  reply.
-/

namespace ElasticGroups.Cloud

/-- What a request may name. -/
inductive Resource
  | group
  | server
  deriving DecidableEq, Repr, Inhabited

/-- The word for a kind of resource. -/
def Resource.label : Resource → String
  | group => "group"
  | server => "instance"

/-- Why a request failed. -/
inductive ProviderError
  /-- The resource does not exist, or no longer. -/
  | notFound (resource : Resource) (id : String)
  /-- The request was never completed. -/
  | transport (reason : String)
  /-- The provider refused the request. -/
  | rejected (reason : String)
  deriving DecidableEq, Repr, Inhabited

namespace ProviderError

/-- The failure means that the resource is absent. -/
def isNotFound : ProviderError → Bool
  | notFound .. => true
  | _ => false

/-- The failure in words. -/
def message : ProviderError → String
  | notFound resource id => resource.label ++ " " ++ id ++ " not found"
  | transport reason => "provider transport error: " ++ reason
  | rejected reason => "provider rejected request: " ++ reason

end ProviderError

/-- The kinds of requests. -/
inductive Operation
  | listGroups
  | getGroup
  | getInstance
  | createInstance
  | destroyInstance
  deriving DecidableEq, Repr, Inhabited

/-- A request to a provider. -/
inductive Request
  /-- List all groups. -/
  | listGroups
  /-- Look a group up. -/
  | getGroup (id : GroupId)
  /-- Look an instance up. -/
  | getInstance (id : InstanceId)
  /-- Make a new instance. -/
  | createInstance (template : LaunchTemplate)
  /-- Delete an instance. -/
  | destroyInstance (id : InstanceId)
  deriving DecidableEq, Repr, Inhabited

namespace Request

/-- The kind of a request. -/
def operation : Request → Operation
  | listGroups => .listGroups
  | getGroup _ => .getGroup
  | getInstance _ => .getInstance
  | createInstance _ => .createInstance
  | destroyInstance _ => .destroyInstance

/-- What a provider answers to a request that it serves. -/
abbrev Answer : Request → Type
  | listGroups => List InstanceGroup
  | getGroup _ => InstanceGroup
  | getInstance _ => Instance
  | createInstance _ => InstanceId
  | destroyInstance _ => Unit

end Request

/-- What a provider replies to a request: the answer, or why there is none. -/
abbrev Reply (request : Request) : Type := Except ProviderError request.Answer

end ElasticGroups.Cloud
