import Kubermatic.Basic
import Kubermatic.NodePort
import Kubermatic.Steps
import Kubermatic.Sync
import Kubermatic.Yield
import Kubermatic.Creates
import Kubermatic.Phase
import Kubermatic.Provision
import Kubermatic.World
import Kubermatic.Fresh
import Kubermatic.Crash
import Kubermatic.Converge
import Kubermatic.Idempotent
import Kubermatic.Stable
import Kubermatic.Footprint
import Kubermatic.Hetzner
import Kubermatic.Datacenter
import Kubermatic.Iap
import Kubermatic.Fleet
import Kubermatic.FleetProgress
