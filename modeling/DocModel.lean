import DocModel.Discoverer
import DocModel.Proofs.Adding
import DocModel.Proofs.Coverage
import DocModel.Proofs.DepthLimit
import DocModel.Proofs.Errors
import DocModel.Proofs.Findings
import DocModel.Proofs.Idempotence
import DocModel.Proofs.Identity
import DocModel.Proofs.Incremental
import DocModel.Proofs.Independence
import DocModel.Proofs.Join
import DocModel.Proofs.Multiplicity
import DocModel.Proofs.Names
import DocModel.Proofs.Opacity
import DocModel.Proofs.OrderedMap
import DocModel.Proofs.Reachability
import DocModel.Proofs.Reordering
import DocModel.Proofs.Required
import DocModel.Proofs.Reuse
import DocModel.Proofs.RootClass
import DocModel.Proofs.Roots
import DocModel.Proofs.RoundTrip
import DocModel.Proofs.Settling
import DocModel.Proofs.Statistics
import DocModel.Proofs.Types
import DocModel.Proofs.Validity
import DocModel.Proofs.Violations
import DocModel.Proofs.Yaml.Conversion
import DocModel.Proofs.Yaml.Embedding
