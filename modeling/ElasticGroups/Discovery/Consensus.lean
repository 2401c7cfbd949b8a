import ElasticGroups.Cloud.Instance
import ElasticGroups.Discovery.Settings

/-!
# Consensus

What a new member of a group must look like, from what the present members report. The members
are heard in order, and type, image and zone are voted on apart.

An empty value does not count. A value has a standing: that of its image, or the best one for a
type. A value of higher standing replaces the one held, and one of lower standing is passed over.
Two different values of the same standing are a conflict, which either fails the vote or leaves
the value held. A zone is kept only while all members that report one agree.

## Main definitions

* `Candidate`, `Candidate.offer`: the vote on the type or the image;
* `ZoneVote`: the vote on the zone;
* `LaunchAttributes.ofMembers`: the consensus of the members.
-/

namespace ElasticGroups.Discovery

open Cloud

/-- What is voted on and must be settled. -/
inductive Attribute
  | instanceType
  | image
  deriving DecidableEq, Repr, Inhabited

/-- The words for an attribute. -/
def Attribute.label : Attribute → String
  | instanceType => "instance type"
  | image => "image"

/-- Why the members have no consensus. -/
inductive ConsensusError
  /-- There are no members. -/
  | noMembers
  /-- Two values of the same standing differ. -/
  | conflict (subject : Attribute) (kept rejected : String)
  /-- No member reports a value. -/
  | unresolved (subject : Attribute)
  deriving DecidableEq, Repr, Inhabited

/-- The cause in words. -/
def ConsensusError.message : ConsensusError → String
  | noMembers => "group has no members to sample"
  | conflict subject kept rejected =>
    "members disagree on " ++ subject.label ++ ": kept " ++ kept ++ ", rejected " ++ rejected
  | unresolved subject => "no member reported a usable " ++ subject.label

/-- A value with its standing. -/
structure Candidate where
  /-- The value. -/
  value : String
  /-- How much the value is worth. -/
  standing : ImageStatus
  deriving DecidableEq, Repr, Inhabited

/-- Hear one more candidate of an attribute, next to the one held so far. -/
def Candidate.offer (policy : ConflictPolicy) (subject : Attribute) (held : Option Candidate)
    (next : Candidate) : Except ConsensusError (Option Candidate) :=
  if next.value = "" then .ok held
  else match held with
    | none => .ok (some next)
    | some best =>
      if best.value = next.value then
        .ok (some (if best.standing.rank < next.standing.rank then next else best))
      else if best.standing.rank < next.standing.rank then .ok (some next)
      else if next.standing.rank < best.standing.rank then .ok (some best)
      else match policy with
        | .reject => .error (.conflict subject best.value next.value)
        | .keepFirst => .ok (some best)

/-- What the members have said about their zone. -/
inductive ZoneVote
  /-- No zone yet. -/
  | unset
  /-- One zone. -/
  | single (zone : String)
  /-- Several zones. -/
  | balanced
  deriving DecidableEq, Repr, Inhabited

namespace ZoneVote

/-- Hear one more zone. -/
def offer (vote : ZoneVote) (zone : String) : ZoneVote :=
  if zone = "" then vote
  else match vote with
    | unset => single zone
    | single held => if held = zone then single held else balanced
    | balanced => balanced

/-- The zone of new members, if there is a single one. -/
def zone? : ZoneVote → Option String
  | single zone => some zone
  | _ => none

end ZoneVote

/-- The votes on all attributes. -/
structure Ballot where
  /-- The type held so far. -/
  instanceType : Option Candidate := none
  /-- The image held so far. -/
  image : Option Candidate := none
  /-- The zones so far. -/
  zone : ZoneVote := .unset
  deriving DecidableEq, Repr, Inhabited

/-- Hear one more member: its type, then its image, then its zone. -/
def Ballot.hear (policy : ConflictPolicy) (ballot : Ballot) (i : Instance) :
    Except ConsensusError Ballot := do
  let instanceType ←
    Candidate.offer policy .instanceType ballot.instanceType ⟨i.instanceType, .available⟩
  let image ← Candidate.offer policy .image ballot.image ⟨i.image.id, i.image.status⟩
  return { instanceType, image, zone := ballot.zone.offer i.zoneId }

/-- What new members of a group share. -/
structure LaunchAttributes where
  /-- The type of the machine. -/
  instanceType : String
  /-- The image. -/
  imageId : String
  /-- The zone, or nothing if the group spans several or reports none. -/
  zoneId : Option String
  deriving DecidableEq, Repr, Inhabited

/-- The value that a vote settled on. -/
def Candidate.settle (subject : Attribute) : Option Candidate → Except ConsensusError String
  | some best => .ok best.value
  | none => .error (.unresolved subject)

/-- The outcome of the votes. -/
def Ballot.settle (ballot : Ballot) : Except ConsensusError LaunchAttributes := do
  let instanceType ← Candidate.settle .instanceType ballot.instanceType
  let imageId ← Candidate.settle .image ballot.image
  return { instanceType, imageId, zoneId := ballot.zone.zone? }

/-- The consensus of the members, heard in order. -/
def LaunchAttributes.ofMembers (policy : ConflictPolicy) (members : List Instance) :
    Except ConsensusError LaunchAttributes :=
  if members = [] then .error .noMembers
  else do
    let ballot ← members.foldlM (Ballot.hear policy) {}
    ballot.settle

end ElasticGroups.Discovery
