import ElasticGroups.Cloud.Instance

/-!
# References to instances

How a caller refers to an instance: by its bare name, or by a provider id, which puts a scheme and
a separator in front of the name.

## Main definitions

* `InstanceRef`: the reference;
* `InstanceRef.ofProviderId`, `InstanceRef.providerId`: reading and writing a provider id.
-/

namespace ElasticGroups.Scaling

open Cloud

/-- A reference to an instance. -/
structure InstanceRef where
  /-- The name of the instance. -/
  id : InstanceId
  deriving DecidableEq, Repr, Inhabited

namespace InstanceRef

/-- The separator between the scheme and the name. -/
def separator : List Char := [':', '/', '/']

/-- The scheme of the provider ids written here. -/
def scheme : String := "groupscale"

/-- What follows the first separator in a text, if there is one. -/
def afterSeparator? : List Char → Option (List Char)
  | [] => none
  | c :: rest =>
    match separator.isPrefixOf? (c :: rest) with
    | some after => some after
    | none => afterSeparator? rest

/-- Read a provider id or a bare name: what follows the first separator, or everything if there is
none, without the slashes at its start. -/
def ofProviderId (s : String) : InstanceRef :=
  let cs := s.toList
  ⟨String.ofList (((afterSeparator? cs).getD cs).dropWhile (· = '/'))⟩

/-- The provider id of an instance. -/
def providerId (r : InstanceRef) : String :=
  scheme ++ String.ofList separator ++ r.id

end InstanceRef

end ElasticGroups.Scaling
