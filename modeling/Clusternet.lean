import Clusternet.Spec.Types
import Clusternet.Spec.Shadow
import Clusternet.Spec.ClusterStatus
import Clusternet.Proofs.Effects
import Clusternet.Proofs.Plan
import Clusternet.Proofs.Install
import Clusternet.Proofs.Storage
import Clusternet.Proofs.Shadow
import Clusternet.Proofs.ClusterStatus
import Clusternet.Sanity.Reachable
import Clusternet.Sanity.Mono
