import Ziggo.TimeSync.SyncLoop.FollowUps
import Ziggo.TimeSync.SyncLoop.SlaveTime

/-!
# Information on the grandmaster

A `Follow_Up` carries the time base and the last change of phase of the
grandmaster.  They reach the clock slave and the master ports only if the block
that the receiver of the port allocates holds them already, since the receiver
does not copy them into it.
-/

namespace Ziggo
namespace TimeSync

open Foundation TsnDrivers

namespace SyncLoop

open MDSyncSendMachine

section Pairs

variable {s : Settings} {l : SyncLoop} {e : Event} {p : Pair}

end Pairs

end SyncLoop

end TimeSync
end Ziggo
