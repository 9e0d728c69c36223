import Lightstep.Common.Characters
import Lightstep.Common.ProtoUnmarshal
import Lightstep.Library.Dechunk
import Lightstep.Library.RequestHead

/-! The satellite that the tests run.

It reads the body of a streamed request message by message, while the request is still
being sent, and puts a report on a channel for what every report has in common and one
for each span. What has arrived of a request stands for the reader it reads from. -/
namespace Lightstep.MockSatellite
open Library Common Collector

def computeFieldTypeNumber (field wireType : UInt64) : UInt64 := (field <<< 3) ||| wireType

/-- `binary.ReadUvarint`, which takes no number of more than 64 bits. -/
def readUvarint : Reader UInt8 UInt64 :=
  Reader.filterMap parseVarint fun n => if n < 2 ^ 64 then some n.toUInt64 else none

/-- The bytes of the message in a field. -/
def readEmbeddedBytes (field : UInt64) : Reader UInt8 (List UInt8) :=
  readUvarint.bind fun fieldType =>
    Reader.guard (fieldType = computeFieldTypeNumber field 2)
      (readUvarint.bind fun length => takeBytes length.toNat)

def readEmbeddedMessage {M : Type} (field : UInt64) (unmarshal : List UInt8 → Option M) : Reader UInt8 M :=
  (readEmbeddedBytes field).filterMap unmarshal

section
variable [ProtoUnmarshal]

def readReporter : Reader UInt8 Reporter := readEmbeddedMessage 1 ProtoUnmarshal.reporter

def readAuth : Reader UInt8 Auth := readEmbeddedMessage 2 ProtoUnmarshal.auth

def readInternalMetrics : Reader UInt8 InternalMetrics := readEmbeddedMessage 6 ProtoUnmarshal.internalMetrics

def readStreamHeader : Reader UInt8 ReportRequest :=
  readReporter.bind fun reporter => readAuth.bind fun auth => readInternalMetrics.bind fun internalMetrics =>
    .pure {ReportRequest.default with
      reporter := some reporter, auth := some auth, internalMetrics := some internalMetrics}

def readSpan : Reader UInt8 Collector.Span := readEmbeddedMessage 3 ProtoUnmarshal.span

/-- The report of one span of a stream. -/
def spanReport (reportHeader : ReportRequest) (span : Collector.Span) : ReportRequest :=
  {ReportRequest.default with reporter := reportHeader.reporter, auth := reportHeader.auth, spans := [span]}

/-- The reports it puts on the channel. -/
def serveStreamingHTTP (body : List UInt8) : List ReportRequest :=
  match readStreamHeader body with
  | none => []
  | some (reportHeader, reader) => reportHeader :: (readAll readSpan reader).1.map (spanReport reportHeader)

end

/-- The second word of a request line. -/
def requestUrl (requestLine : List UInt8) : List UInt8 :=
  ((requestLine.dropWhile (· ≠ 32)).drop 1).takeWhile (· ≠ 32)

def isStreamedRequest (request : RequestHead) : Bool :=
  requestUrl request.requestLine = ascii "/report-mock-streaming" ||
    (request.fields.lookup (ascii "Transfer-Encoding")) = some (ascii "chunked")

/-- What has arrived of a streamed request, and the reports it has given. -/
def serveHTTP [ProtoUnmarshal] (input : List UInt8) : List ReportRequest :=
  match readHead input with
  | none => []
  | some (request, rest) => if isStreamedRequest request then serveStreamingHTTP (Dechunker.new.body rest) else []

/-! ### Messages in front of whatever follows them -/

theorem readUvarint_varint {n : Nat} (h : n < 2 ^ 64) (rest : List UInt8) :
    readUvarint (varint n ++ rest) = some (n.toUInt64, rest) := by
  simp only [readUvarint, Reader.filterMap, parseVarint_varint h, Option.bind_some, if_pos h, Option.map_some]

theorem toUInt64_fieldType {field : UInt64} (h : field.toNat < 2 ^ 29) :
    (field.toNat * 8 + 2).toUInt64 = computeFieldTypeNumber field 2 := by
  have hshift : field.toNat <<< 3 = field.toNat * 8 := Nat.shiftLeft_eq _ 3
  have hor : field.toNat * 8 ||| 2 = field.toNat * 8 + 2 := by
    rw [← hshift]
    exact (Nat.shiftLeft_add_eq_or_of_lt (by decide : 2 < 2 ^ 3) _).symm
  apply UInt64.toNat_inj.mp
  rw [computeFieldTypeNumber, UInt64.toNat_or, UInt64.toNat_shiftLeft]
  show (field.toNat * 8 + 2) % 2 ^ 64 = field.toNat <<< (3 % 64) % 2 ^ 64 ||| 2
  rw [Nat.mod_eq_of_lt (by decide : 3 < 64), hshift, Nat.mod_eq_of_lt (by omega), Nat.mod_eq_of_lt (by omega), hor]

/-- **An embedded message is read** as the message that its bytes are. -/
theorem readEmbeddedMessage_encode {M : Type} (field : UInt64) (hfield : field.toNat < 2 ^ 29)
    {unmarshal : List UInt8 → Option M} {message : M} {bytes : List UInt8} (h : bytes.length < 2 ^ 64)
    (hunmarshal : unmarshal bytes = some message) (rest : List UInt8) :
    readEmbeddedMessage field unmarshal
      ((Library.Field.mk field.toNat (.lengthDelimited bytes)).encode ++ rest) = some (message, rest) := by
  have htag : field.toNat * 8 + 2 < 2 ^ 64 := by omega
  have hnat : bytes.length.toUInt64.toNat = bytes.length := UInt64.toNat_ofNat_of_lt' h
  have hbytes : readEmbeddedBytes field ((Library.Field.mk field.toNat (.lengthDelimited bytes)).encode ++ rest) =
      some (bytes, rest) := by
    simp only [Field.encode, fieldTag, WireValue.wireType, WireValue.encode, List.append_assoc, readEmbeddedBytes,
      Reader.bind, Reader.guard, readUvarint_varint htag, readUvarint_varint h, Option.bind_some,
      toUInt64_fieldType hfield, if_true, hnat, takeBytes_append]
  simp only [readEmbeddedMessage, Reader.filterMap, hbytes, Option.bind_some, hunmarshal, Option.map_some]

/-! ### What has been served stays served -/

theorem steady_readUvarint : Steady readUvarint := steady_parseVarint.filterMap _

theorem steady_readEmbeddedMessage {M : Type} (field : UInt64) (unmarshal : List UInt8 → Option M) :
    Steady (readEmbeddedMessage field unmarshal) := by
  have hbytes : Steady (readEmbeddedBytes field) := steady_readUvarint.bind fun _ =>
    (steady_readUvarint.bind fun length => steady_takeBytes length.toNat).guard _
  exact hbytes.filterMap _

variable [ProtoUnmarshal]

theorem steady_readStreamHeader : Steady readStreamHeader :=
  (steady_readEmbeddedMessage 1 _).bind fun _ =>
    (steady_readEmbeddedMessage 2 _).bind fun _ => (steady_readEmbeddedMessage 6 _).bind fun _ => .pure _

theorem steady_readSpan : Steady readSpan := steady_readEmbeddedMessage 3 _

theorem consumes_readSpan : Consumes 1 readSpan := by
  have huvarint : Consumes 1 readUvarint := (consumes_readVarint 10).filterMap _
  have hbytes : Consumes 1 (readEmbeddedBytes 3) := huvarint.bind fun _ =>
    ((huvarint.bind fun length => (consumes_takeBytes length.toNat).mono (Nat.zero_le _)).mono (Nat.zero_le _)).guard _
  exact hbytes.filterMap _

/-- **What has been served stays served** when more of the request arrives. -/
theorem serveHTTP_isPrefix {a b : List UInt8} (h : a <+: b) : serveHTTP a <+: serveHTTP b := by
  obtain ⟨more, rfl⟩ := h
  cases hhead : readHead a with
  | none => simp only [serveHTTP, hhead, List.nil_prefix]
  | some result =>
    obtain ⟨request, rest⟩ := result
    simp only [serveHTTP, hhead, steady_readHead hhead more]
    split
    · have hbody := Dechunker.body_isPrefix (List.prefix_append rest more) .new
      generalize Dechunker.new.body rest = before at hbody
      generalize Dechunker.new.body (rest ++ more) = after at hbody
      obtain ⟨later, rfl⟩ := hbody
      cases hheader : readStreamHeader before with
      | none => simp only [serveStreamingHTTP, hheader, List.nil_prefix]
      | some result =>
        obtain ⟨reportHeader, reader⟩ := result
        have hspans := readAll_isPrefix steady_readSpan consumes_readSpan (List.prefix_append reader later)
        simp only [serveStreamingHTTP, hheader, steady_readStreamHeader hheader later]
        exact List.cons_prefix_cons.mpr ⟨rfl, hspans.map _⟩
    · exact List.prefix_refl _

end Lightstep.MockSatellite
