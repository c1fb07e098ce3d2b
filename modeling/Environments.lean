import Environments.Proofs.Directory.Registration
import Environments.Proofs.Document.Meaning
import Environments.Proofs.Load.Accounting
import Environments.Proofs.Load.ClosedForm
import Environments.Proofs.Load.Confluence
import Environments.Proofs.Load.MoreTime
import Environments.Proofs.Load.Shift
import Environments.Proofs.Session.Arrivals
import Environments.Proofs.Session.Cutoff
import Environments.Proofs.Session.Discovery
import Environments.Proofs.Session.Independence
import Environments.Proofs.Session.Journals
import Environments.Proofs.Session.Provenance
import Environments.Proofs.Setup.Passage
import Environments.Proofs.Setup.Selection
import Environments.Proofs.Setup.Target
import Environments.Proofs.Session.Uniqueness
import Environments.Proofs.Provider.Lineage
import Environments.Proofs.Session.Interference
import Environments.Proofs.Flags.Grammar
import Environments.Proofs.Session.Rejections
import Environments.Proofs.Text.Validated
