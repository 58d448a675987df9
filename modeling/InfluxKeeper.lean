import InfluxKeeper.Main
import InfluxKeeper.Proofs.Bucket.Created
import InfluxKeeper.Proofs.Bucket.DefaultRules
import InfluxKeeper.Proofs.Bucket.Reordering
import InfluxKeeper.Proofs.Bucket.Settling
import InfluxKeeper.Proofs.Command.Token
import InfluxKeeper.Proofs.Event.Bus
import InfluxKeeper.Proofs.Fleet.Delivery
import InfluxKeeper.Proofs.Fleet.Identity
import InfluxKeeper.Proofs.Fleet.Independence
import InfluxKeeper.Proofs.Fleet.Intent
import InfluxKeeper.Proofs.Fleet.Naming
import InfluxKeeper.Proofs.Manifest.Breaking
import InfluxKeeper.Proofs.Reconcile.Flag
import InfluxKeeper.Proofs.Reconcile.Halfway
import InfluxKeeper.Proofs.Reconcile.LookupFailure
import InfluxKeeper.Proofs.Reconcile.Reports
import InfluxKeeper.Proofs.Reconcile.Resolution
import InfluxKeeper.Proofs.Reconcile.Target
import InfluxKeeper.Proofs.Reconcile.Transition
import InfluxKeeper.Proofs.Reconcile.Validity
