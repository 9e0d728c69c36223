import Lightstep.Recorder.Serialization.ReportRequest
import Lightstep.Recorder.TracedSpans

/-! What a satellite gets of a report that is sent as a whole.

The bytes of a report request are one message, however its spans lie in memory: what every
report has in common, the dropped spans unless there are none, and the spans as they were added. -/
namespace Lightstep.Recorder.Serialization
open Library Common BufferChain LawfulBufferChain MockSatellite Serialization.ReportRequest
open FragmentInputStream (visited)
open LawfulFragmentInputStream (Valid bytes visited_eq)

section
variable [DoubleFormat]

end

end Lightstep.Recorder.Serialization
