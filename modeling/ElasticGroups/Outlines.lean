import ElasticGroups.Cloud.Store
import ElasticGroups.Discovery.Catalog
import ElasticGroups.Text.Outline

/-!
# Outlines of the main records

One-line outlines for logs. Those of a store, a node group and a catalog leave fields out.

## Main definitions

An `outline` for settings and their parts, launch templates, stores, node groups and catalogs.
-/

namespace ElasticGroups

open Text

/-- The outline of a convergence. -/
def Convergence.outline (c : Convergence) : String :=
  Outline.render ⟨"ConvergenceConfig",
    [("interval", c.interval.exactText), ("timeout", c.timeout.exactText)], true⟩

namespace Cloud

/-- The outline of a store: how much it holds. -/
def Store.outline (store : Store) : String :=
  Outline.render ⟨"MemoryProvider",
    [("groups", toString store.groups.length), ("instances", toString store.instances.size),
     ("stalled", toString store.stalled)], false⟩

/-- The outline of a launch template. -/
def LaunchTemplate.outline (t : LaunchTemplate) : String :=
  Outline.render ⟨"LaunchTemplate",
    [("name", quoteText t.name), ("instance_type", quoteText t.instanceType),
     ("image_id", quoteText t.imageId), ("zone_id", outlineOption t.zoneId),
     ("group_id", quoteText t.groupId), ("parent_group_id", outlineOption t.parentGroupId),
     ("user_data", quoteText t.userData)], true⟩

end Cloud

/-- The outline of a node group. -/
def Scaling.NodeGroup.outline (g : Scaling.NodeGroup) : String :=
  Outline.render ⟨"NodeGroup",
    [("id", quoteText g.id), ("min_size", toString g.bounds.min),
     ("max_size", toString g.bounds.max), ("template", g.template.outline),
     ("convergence", g.convergence.outline)], false⟩

namespace Discovery

/-- The outline of a policy. -/
def ConflictPolicy.outline : ConflictPolicy → String
  | reject => "Reject"
  | keepFirst => "KeepFirst"

/-- The outline of the settings. -/
def Settings.outline (s : Settings) : String :=
  Outline.render ⟨"CatalogConfig",
    [("cluster_name", quoteText s.clusterName),
     ("server_name_prefix", quoteText s.serverNamePrefix),
     ("conflict_policy", s.conflictPolicy.outline),
     ("convergence", s.convergence.outline)], true⟩

/-- The outline of a catalog. -/
def Catalog.outline (c : Catalog) : String :=
  Outline.render ⟨"Catalog",
    [("config", c.settings.outline), ("node_groups", toString c.nodeGroups.length),
     ("instances", toString c.membership.size)], false⟩

end Discovery

end ElasticGroups
