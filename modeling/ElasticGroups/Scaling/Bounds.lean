import ElasticGroups.Text.Numeral

/-!
# Size bounds

The least and the greatest size of a group, which its free-text description holds as two counts
with a colon between them. Any other description pins the group to its size.

## Main definitions

* `Bounds`, `Bounds.isScalable`: the bounds, and whether they leave room;
* `Bounds.parse?`: the bounds that a description holds;
* `Bounds.ofDescription`: the bounds of a group.
-/

namespace ElasticGroups.Scaling

open Text

/-- The least and the greatest size of a group. -/
structure Bounds where
  /-- The least size. -/
  min : Nat
  /-- The greatest size. -/
  max : Nat
  deriving DecidableEq, Repr, Inhabited

namespace Bounds

/-- Bounds that pin a group to one size. -/
def fixed (size : Nat) : Bounds := ⟨size, size⟩

/-- Bounds with room between them. -/
def isScalable (b : Bounds) : Bool := b.min < b.max

/-- The bounds that a description holds: two counts with one colon between them, the first less
than the second. -/
def parse? (description : String) : Option Bounds :=
  let cs := description.toList
  match cs.dropWhile (· ≠ ':') with
  | [] => none
  | _ :: right => do
    let min ← count? (cs.takeWhile (· ≠ ':'))
    let max ← count? right
    if min < max then some ⟨min, max⟩ else none

/-- The bounds of a group with a description and a size. -/
def ofDescription (description : String) (size : Nat) : Bounds :=
  (parse? description).getD (fixed size)

end Bounds

end ElasticGroups.Scaling
