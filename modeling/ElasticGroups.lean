import ElasticGroups.Main
import ElasticGroups.Outlines
import ElasticGroups.Cloud.Lagging
import ElasticGroups.Proofs.Session.Polling
import ElasticGroups.Proofs.Scaling.Requests
import ElasticGroups.Proofs.Scaling.Deletion
import ElasticGroups.Proofs.Scaling.Growth
import ElasticGroups.Proofs.Discovery.Census
import ElasticGroups.Proofs.Discovery.Cycle
import ElasticGroups.Proofs.Discovery.Consensus
import ElasticGroups.Proofs.Discovery.Survey
import ElasticGroups.Proofs.Discovery.Rounds
import ElasticGroups.Proofs.Discovery.View
import ElasticGroups.Proofs.Cloud.Effect
import ElasticGroups.Proofs.Cloud.Groups
import ElasticGroups.Proofs.Cloud.Coherence
import ElasticGroups.Proofs.Fleet.Tending
import ElasticGroups.Proofs.Fleet.Operations
import ElasticGroups.Proofs.Fleet.Run
import ElasticGroups.Proofs.Fleet.WellFormed
import ElasticGroups.Proofs.Fleet.Enlisting
import ElasticGroups.Proofs.Discovery.Availability
import ElasticGroups.Proofs.Scaling.Refusal
import ElasticGroups.Proofs.Cloud.Listing
import ElasticGroups.Proofs.Cloud.Naming
import ElasticGroups.Proofs.Boot.Version
import ElasticGroups.Proofs.Text.Shape
import ElasticGroups.Proofs.Text.Words
import ElasticGroups.Proofs.Boot.JoinCommand
import ElasticGroups.Proofs.Boot.Rendering
import ElasticGroups.Proofs.Cloud.Codec
import ElasticGroups.Proofs.Discovery.Settings
import ElasticGroups.Proofs.Cloud.Reload
import ElasticGroups.Proofs.Cloud.Launching
import ElasticGroups.Proofs.Session.Elapsed
import ElasticGroups.Proofs.Cloud.Lagging
import ElasticGroups.Proofs.Scaling.Running
import ElasticGroups.Proofs.Scaling.Lagging
import ElasticGroups.Proofs.Session.Outcomes
import ElasticGroups.Proofs.Cloud.Retiring
import ElasticGroups.Proofs.Discovery.Precedence
import ElasticGroups.Proofs.Scaling.Shrinking
import ElasticGroups.Proofs.Cloud.Failures
import ElasticGroups.Proofs.Scaling.Enlarging
import ElasticGroups.Proofs.Text.Blank
import ElasticGroups.Proofs.Duration.Spelling
import ElasticGroups.Proofs.Cloud.Framing
import ElasticGroups.Proofs.Fleet.Inquiring
import ElasticGroups.Proofs.Cloud.Delivery
import ElasticGroups.Proofs.Cloud.History
import ElasticGroups.Proofs.Scaling.Bounds
import ElasticGroups.Proofs.Scaling.InstanceRef
import ElasticGroups.Proofs.Text.Base64
import ElasticGroups.Proofs.Discovery.UserData
import ElasticGroups.Proofs.Boot.Acceptance
import ElasticGroups.Proofs.Daemon.Override
