import Rollout.Number.Shortest
import Rollout.Text.Blank
import Rollout.Text.Digit
import Rollout.Text.Lowercase
import Rollout.Text.Quoted
import Rollout.Number.Decimal
import Rollout.Time.Iso
import Rollout.Document
import Rollout.Document.Json
import Rollout.Document.Shown
import Rollout.Yaml.Document
import Rollout.Resource.Listing
import Rollout.Quantity
import Rollout.Settings
import Rollout.Deployment.Current
import Rollout.Deployment.Exposure
import Rollout.Deployment.Health
import Rollout.Environment
import Rollout.Access
import Rollout.Metrics
import Rollout.Cluster.Permission
import Rollout.Cluster.Recorded
import Rollout.Url.Target
import Rollout.Proofs.Grants
import Rollout.Proofs.Consultation
import Rollout.Proofs.Remembered
import Rollout.Proofs.Scaling
import Rollout.Proofs.Isolation
import Rollout.Proofs.DeploymentView
import Rollout.Proofs.Setup
import Rollout.Proofs.Coverage
import Rollout.Proofs.Spaces
import Rollout.Proofs.Admission
import Rollout.Proofs.Ranking
import Rollout.Proofs.Association
import Rollout.Proofs.Exposure
import Rollout.Proofs.Hierarchy
import Rollout.Proofs.Steady
import Rollout.Proofs.Agreement
import Rollout.Proofs.Quotas
import Rollout.Proofs.Gathering
import Rollout.Proofs.Percent
import Rollout.Proofs.Usage
import Rollout.Proofs.Address
import Rollout.Proofs.Confinement
import Rollout.Proofs.Rewriting
import Rollout.Proofs.Answers
import Rollout.Proofs.Register
import Rollout.Proofs.Category
import Rollout.Proofs.Tally
import Rollout.Proofs.Series
import Rollout.Proofs.Mapping
import Rollout.Proofs.Waiting
import Rollout.Proofs.Succession
import Rollout.Proofs.Hosting
import Rollout.Proofs.Naming
import Rollout.Proofs.Priority
import Rollout.Proofs.Completion
import Rollout.Proofs.Annotation
import Rollout.Proofs.Reliance
import Rollout.Proofs.Interpretation
import Rollout.Proofs.Kinds
import Rollout.Proofs.Window
import Rollout.Proofs.Property
import Rollout.Proofs.Derivation
import Rollout.Proofs.Tolerance
import Rollout.Proofs.Discretion
import Rollout.Proofs.Endpoints
import Rollout.Proofs.Milliseconds
import Rollout.Proofs.Ceiling
import Rollout.Proofs.Quantities
import Rollout.Proofs.Unlisted
