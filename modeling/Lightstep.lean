import Lightstep.Library.Machine
import Lightstep.Library.Cursor
import Lightstep.Library.Dechunk
import Lightstep.Library.LinkedList
import Lightstep.Library.Lock
import Lightstep.Library.Ledger
import Lightstep.Library.Fold
import Lightstep.Library.Varint
import Lightstep.Library.Wire
import Lightstep.Library.XorShift
import Lightstep.Library.Message
import Lightstep.Library.Lengths
import Lightstep.Library.Chunk
import Lightstep.Library.Layout
import Lightstep.Library.ZeroCopyInputStream
import Lightstep.Library.Join
import Lightstep.Library.Visits
import Lightstep.Common.Characters
import Lightstep.Common.FastRandomNumberGenerator
import Lightstep.Common.FlatMap
import Lightstep.Common.Value
import Lightstep.Common.JsonParser
import Lightstep.Common.JsonText
import Lightstep.Common.JsonNumbers
import Lightstep.Common.JsonRoundTrip
import Lightstep.Common.JsonFaithful
import Lightstep.Common.Collector
import Lightstep.Common.CodedOutputStream
import Lightstep.Common.Serialization
import Lightstep.Common.WrittenFields
import Lightstep.Common.Utility
import Lightstep.Common.Base64
import Lightstep.Common.Base64Texts
import Lightstep.Common.HexConversion
import Lightstep.Common.HexGrammar
import Lightstep.Common.HexDigits
import Lightstep.Common.ChunkHeader
import Lightstep.Common.CircularBufferRange
import Lightstep.Common.CircularBuffer
import Lightstep.Common.CircularBuffer.Sequential
import Lightstep.Common.CircularBuffer.Interleaving
import Lightstep.Common.CircularBuffer.Invariant
import Lightstep.Common.CircularBuffer.Safety
import Lightstep.Common.CircularBuffer.FullReport
import Lightstep.Common.FragmentInputStream
import Lightstep.Common.FragmentArrayInputStream
import Lightstep.Common.ComposableFragmentInputStream
import Lightstep.Common.NodeChain
import Lightstep.Common.ChainedStream
import Lightstep.Common.StreamWriter
import Lightstep.Common.Consumption
import Lightstep.Common.BufferChain
import Lightstep.Common.RandomTraverser
import Lightstep.Recorder.PartialConsumption
import Lightstep.Recorder.SpanFraming
import Lightstep.Network.VectorWrite
import Lightstep.Tracer.Serialization
import Lightstep.Tracer.SharedSpan
import Lightstep.Tracer.SpanContexts
import Lightstep.Tracer.BinaryContexts
import Lightstep.Tracer.SpanFields
import Lightstep.Tracer.SpanIds
import Lightstep.Tracer.SpanRead
import Lightstep.Tracer.SerializationSize
import Lightstep.Tracer.Propagation.TraceContext
import Lightstep.Tracer.Span
import Lightstep.Tracer.SpanParts
import Lightstep.Tracer.SpanReport
import Lightstep.Tracer.SpanFaithful
import Lightstep.Tracer.Timestamps
import Lightstep.Tracer.BaggageMap
import Lightstep.Tracer.Legacy.LegacySpan
import Lightstep.Tracer.TraceState
import Lightstep.Tracer.Traces
import Lightstep.Tracer.Legacy.LegacyReport
import Lightstep.Tracer.Legacy.Interchange
import Lightstep.Tracer.Propagation.Carrier
import Lightstep.Tracer.Propagation.BinaryPropagation
import Lightstep.Tracer.Propagation.Propagator
import Lightstep.Tracer.Propagation.Propagation
import Lightstep.Tracer.Propagation.HeaderOrder
import Lightstep.Tracer.Propagation.Traceparent
import Lightstep.Tracer.Propagation.CloudTrace
import Lightstep.Tracer.Propagation.HexAccess
import Lightstep.Tracer.Propagation.EnumerationOrder
import Lightstep.Tracer.Propagation.CompleteContext
import Lightstep.Tracer.Propagation.WrittenHeaders
import Lightstep.Tracer.Propagation.RoundTrip
import Lightstep.Tracer.Propagation.BinaryCarrier
import Lightstep.Tracer.Propagation.FailedExtractor
import Lightstep.Library.LowerBound
import Lightstep.Library.Hexadecimal
import Lightstep.Library.Incremental
import Lightstep.Recorder.Metrics
import Lightstep.Recorder.SpanStream
import Lightstep.Recorder.ConnectionStream
import Lightstep.Recorder.Sessions
import Lightstep.Recorder.Accounting
import Lightstep.Recorder.FailedFlush
import Lightstep.Recorder.StatusLineParser
import Lightstep.Recorder.StatusLine
import Lightstep.Recorder.ChunkHeaders
import Lightstep.Recorder.SatelliteConnection
import Lightstep.Recorder.SoundStream
import Lightstep.Recorder.StreamRecorder
import Lightstep.Recorder.ForkAccounting
import Lightstep.Recorder.ForkAwareRecorder
import Lightstep.Recorder.SatelliteStreamer
import Lightstep.Recorder.SatelliteTimers
import Lightstep.Recorder.FreshSocket
import Lightstep.Recorder.ReportBuilder
import Lightstep.Recorder.LegacyManualRecorder
import Lightstep.Recorder.LegacyAccounting
import Lightstep.Recorder.AutoRecorder
import Lightstep.Recorder.AutoAccounting
import Lightstep.Recorder.ManualRecorder
import Lightstep.Recorder.ManualAccounting
import Lightstep.Recorder.SatelliteShutdown
import Lightstep.Recorder.Serialization.ReportRequest
import Lightstep.Recorder.SeparateEndpoints
import Lightstep.Recorder.SatelliteEndpoints
import Lightstep.Library.RoundRobin
import Lightstep.Library.Slots
import Lightstep.Recorder.EndpointResolution
import Lightstep.Recorder.EndpointAssignment
import Lightstep.Library.RequestHead
import Lightstep.Common.Protobuf
import Lightstep.Common.CollectorReport
import Lightstep.Recorder.Serialization.ReportRequestHeader
import Lightstep.Recorder.TracedSpans
import Lightstep.Library.Monitor
import Lightstep.Recorder.FlushRequests
import Lightstep.Recorder.Serialization.ServedReport
import Lightstep.Library.MonitorThreads
import Lightstep.Recorder.FlushedSpans
import Lightstep.Recorder.ShutdownRequests
