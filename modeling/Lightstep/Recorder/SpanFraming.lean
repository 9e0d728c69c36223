import Lightstep.Common.HexConversion
import Lightstep.Common.Serialization
import Lightstep.Common.StreamWriter
import Lightstep.Library.Chunk

/-! Framing a span.

Space is reserved at the start of a stream before a span is serialized to it, for headers that say how
long the span is. They are written from the end of that space backwards, and what is left of it is
passed over. -/
namespace Lightstep.Common
open Library FragmentInputStream LawfulFragmentInputStream ChainedStream

def reportRequestSpansField : Nat := 3

def reportRequestSpansMaxHeaderSize : Nat :=
  staticKeySerializationSize reportRequestSpansField .lengthDelimited + varintSize (2 ^ 32 - 1)

def chunkedHttpMaxHeaderSize : Nat := num32BitHexDigits + 2

def chunkedHttpFooter : List UInt8 := [13, 10]

/-- A fragment of the memory of a stream's head block, from a position on. -/
structure HeaderFragment where
  position : Nat
  size : Nat

/-- Writes to the end of the first `size` bytes from `data` on; the size of what is written. -/
def writeReportRequestSpansHeader (data : Nat) (size : UInt64) (bodySize : UInt32) (s : ChainedStream) :
    ChainedStream × UInt64 :=
  let headerSize := (computeLengthDelimitedHeaderSerializationSize reportRequestSpansField bodySize.toNat).toUInt64
  let serializationStart := data + (size - headerSize).toNat
  let stream : DirectCodedOutputStream := writeKeyLength reportRequestSpansField bodySize.toNat ⟨some []⟩
  -- Two varints: what is written is known.
  (s.storeHead serializationStart (stream.written.getD []), headerSize)

/-- Writes to the end of the first `size` bytes from `data` on; the size of what is written. -/
def writeHttpChunkHeader (data : Nat) (size : UInt64) (chunkSize : UInt32) (s : ChainedStream) :
    ChainedStream × UInt64 :=
  let serializationStart := data + (size - chunkedHttpMaxHeaderSize.toUInt64).toNat
  (s.storeHead serializationStart (uint32ToHex chunkSize ++ [13, 10]), chunkedHttpMaxHeaderSize.toUInt64)

/-- `ReserveHeaderSpace` of a recorder whose headers have a greatest size. -/
def reserveHeaderSpace (maxHeaderSize : Nat) (s : ChainedStream) : ChainedStream × HeaderFragment :=
  let data := s.nextPosition
  let (s, size) := s.next
  (s.backUp (size - maxHeaderSize), ⟨data, maxHeaderSize⟩)

end Lightstep.Common

namespace Lightstep.Recorder
open Library Common FragmentInputStream LawfulFragmentInputStream ChainedStream

/-! ### The recorders -/

namespace StreamRecorder

def maxHeaderSize : Nat := reportRequestSpansMaxHeaderSize + chunkedHttpMaxHeaderSize

/-- What `RecordSpan` writes before the span, and how much of the reserved space it passes over. -/
def writeHeaders (headerFragment : HeaderFragment) (span : ChainedStream) : ChainedStream × UInt64 :=
  let reservedHeaderSize := headerFragment.size.toUInt64
  let protobufBodySize :=
    UInt64.ofInt span.byteCount - chunkedHttpFooter.length.toUInt64 - headerFragment.size.toUInt64
  let (span, protobufHeaderSize) :=
    writeReportRequestSpansHeader headerFragment.position reservedHeaderSize protobufBodySize.toUInt32 span
  let chunkBodySize := protobufBodySize + protobufHeaderSize
  let (span, chunkHeaderSize) :=
    writeHttpChunkHeader headerFragment.position (reservedHeaderSize - protobufHeaderSize) chunkBodySize.toUInt32 span
  (span, reservedHeaderSize - protobufHeaderSize - chunkHeaderSize)

end StreamRecorder

namespace ManualRecorder

def maxHeaderSize : Nat := reportRequestSpansMaxHeaderSize

/-- What `RecordSpan` writes before the span, and how much of the reserved space it passes over. -/
def writeHeaders (headerFragment : HeaderFragment) (span : ChainedStream) : ChainedStream × UInt64 :=
  let reservedHeaderSize := headerFragment.size.toUInt64
  let protobufBodySize := UInt64.ofInt span.byteCount - headerFragment.size.toUInt64
  let (span, protobufHeaderSize) :=
    writeReportRequestSpansHeader headerFragment.position reservedHeaderSize protobufBodySize.toUInt32 span
  (span, reservedHeaderSize - protobufHeaderSize)

end ManualRecorder

/-- The cast of a size to `int`. -/
def toInt (size : UInt64) : Int := (size.toNat : Int).bmod (2 ^ 32)

/-- The stream that `RecordSpan` adds to the buffer. -/
def frameSpan (written : ChainedStream × UInt64) : ChainedStream :=
  seek written.1.closeOutput 0 (toInt written.2).toNat

/-! ### Sizes -/

theorem toNat_toUInt64 {n : Nat} (h : n < 2 ^ 64) : n.toUInt64.toNat = n := UInt64.toNat_ofNat_of_lt' h

theorem toUInt64_sub {a b : Nat} (hle : b ≤ a) (h : a < 2 ^ 64) : a.toUInt64 - b.toUInt64 = (a - b).toUInt64 := by
  have hb := toNat_toUInt64 (Nat.lt_of_le_of_lt hle h)
  apply UInt64.toNat_inj.mp
  rw [UInt64.toNat_sub_of_le _ _ (UInt64.le_iff_toNat_le.mpr (by rw [hb, toNat_toUInt64 h]; exact hle)),
    toNat_toUInt64 h, hb, toNat_toUInt64 (Nat.lt_of_le_of_lt (Nat.sub_le a b) h)]

theorem toUInt64_add {a b : Nat} : a.toUInt64 + b.toUInt64 = (a + b).toUInt64 := (UInt64.ofNat_add a b).symm

theorem toUInt32_toUInt64 (n : Nat) : n.toUInt64.toUInt32 = n.toUInt32 := UInt64.toUInt32_ofNat' n

theorem ofInt_byteCount {s : ChainedStream} (h : s.numBytesWritten < 2 ^ 31) :
    UInt64.ofInt s.byteCount = s.numBytesWritten.toUInt64 := by
  have hcast : ((s.numBytesWritten : Int) % 2 ^ 64).toNat = s.numBytesWritten := by omega
  calc UInt64.ofInt s.byteCount = UInt64.ofInt s.numBytesWritten :=
        congrArg UInt64.ofInt ((StreamWriter.byteCount_eq_iff s).mpr h)
    _ = s.numBytesWritten.toUInt64 := congrArg UInt64.ofNat hcast

theorem toInt_toUInt64 {n : Nat} (h : n < 2 ^ 31) : toInt n.toUInt64 = n :=
  calc toInt n.toUInt64 = (n : Int).bmod (2 ^ 32) :=
        congrArg (fun k : Nat => (k : Int).bmod (2 ^ 32)) (toNat_toUInt64 (by omega))
    _ = n := (StreamWriter.bmod_eq_self_iff n (Nat.two_pow_pos 31)).mpr h

/-- The tag and the length of a span. -/
def spanHeader (bodySize : Nat) : List UInt8 := fieldTag reportRequestSpansField 2 ++ varint bodySize

theorem length_spanHeader (bodySize : Nat) :
    (spanHeader bodySize).length = computeLengthDelimitedHeaderSerializationSize reportRequestSpansField bodySize :=
  List.length_append

theorem written_writeKeyLength {bodySize : Nat} (h : bodySize < 2 ^ 32) :
    (writeKeyLength reportRequestSpansField bodySize ⟨some []⟩ : DirectCodedOutputStream).written =
      some (spanHeader bodySize) := by
  have hsize : bodySize.toUInt32.toNat = bodySize := UInt32.toNat_ofNat_of_lt' h
  simp only [writeKeyLength, writeTag, writeVarint32, put, Option.map₂_some_some, List.nil_append, hsize]
  rfl

/-- **The headers fit** the space that is reserved for them. -/
theorem length_spanHeader_le {bodySize : Nat} (h : bodySize < 2 ^ 32) :
    (spanHeader bodySize).length ≤ reportRequestSpansMaxHeaderSize := by
  have hsize : varintSize bodySize ≤ 5 := (varintSize_le_iff (by omega) (by decide)).mpr (by omega)
  rw [length_spanHeader, computeLengthDelimitedHeaderSerializationSize]
  exact Nat.add_le_add_left hsize _

/-! ### Writing the headers -/

theorem writeReportRequestSpansHeader_eq {size bodySize : Nat} (hsize : size < 2 ^ 64) (hbody : bodySize < 2 ^ 32)
    (hle : (spanHeader bodySize).length ≤ size) (s : ChainedStream) :
    writeReportRequestSpansHeader 0 size.toUInt64 bodySize.toUInt32 s =
      (s.storeHead (size - (spanHeader bodySize).length) (spanHeader bodySize),
        (spanHeader bodySize).length.toUInt64) := by
  have hcast : bodySize.toUInt32.toNat = bodySize := UInt32.toNat_ofNat_of_lt' hbody
  simp only [writeReportRequestSpansHeader, hcast, ← length_spanHeader, written_writeKeyLength hbody,
    toUInt64_sub hle hsize, toNat_toUInt64 (Nat.lt_of_le_of_lt (Nat.sub_le _ _) hsize), Nat.zero_add, Option.getD_some]

/-- The size of a chunk, and a line break. -/
def chunkHeader (chunkSize : Nat) : List UInt8 := uint32ToHex chunkSize.toUInt32 ++ lineBreak

theorem length_chunkHeader (chunkSize : Nat) : (chunkHeader chunkSize).length = chunkedHttpMaxHeaderSize := by
  simp [chunkHeader, uint32ToHex, lineBreak, chunkedHttpMaxHeaderSize, num32BitHexDigits]

theorem writeHttpChunkHeader_eq {size : Nat} (chunkSize : Nat) (hsize : size < 2 ^ 64)
    (hle : chunkedHttpMaxHeaderSize ≤ size) (s : ChainedStream) :
    writeHttpChunkHeader 0 size.toUInt64 chunkSize.toUInt32 s =
      (s.storeHead (size - (chunkHeader chunkSize).length) (chunkHeader chunkSize),
        (chunkHeader chunkSize).length.toUInt64) := by
  simp only [writeHttpChunkHeader, toUInt64_sub hle hsize, toNat_toUInt64 (Nat.lt_of_le_of_lt (Nat.sub_le _ _) hsize),
    Nat.zero_add, length_chunkHeader]
  rfl

/-- What is written over the end of the first bytes that are kept stands before those after them. -/
theorem step_rewrite_end {w : StreamWriter} {reserved rest bytes : List UInt8} {size : Nat}
    (hkept : w.kept = reserved ++ rest) (hsize : reserved.length = size) (hblock : size ≤ BlockSize)
    (hle : bytes.length ≤ size) :
    ∃ w' passed, StreamWriter.machine.step w (.rewrite (size - bytes.length) bytes) = some w' ∧
      passed.length = size - bytes.length ∧ w'.stream = w.stream.storeHead (size - bytes.length) bytes ∧
      w'.kept = passed ++ (bytes ++ rest) := by
  have hend : size - bytes.length + bytes.length = size := Nat.sub_add_cancel hle
  have hroom : size - bytes.length + bytes.length ≤ min BlockSize w.kept.length := by
    rw [hend, hkept, List.length_append, hsize]
    exact Nat.le_min.mpr ⟨hblock, Nat.le_add_right _ _⟩
  have hover : overwrite w.kept (size - bytes.length) bytes =
      reserved.take (size - bytes.length) ++ (bytes ++ rest) := by
    have hsub : size - bytes.length ≤ reserved.length := hsize ▸ Nat.sub_le _ _
    rw [overwrite, hend, hkept, ← hsize, List.drop_left, hsize, List.take_append_of_le_length hsub, List.append_assoc]
  refine ⟨_, reserved.take (size - bytes.length), if_pos hroom, ?_, rfl, hover⟩
  rw [List.length_take, hsize, Nat.min_eq_left (Nat.sub_le _ _)]

/-- What a framed span owes: it is passed over to a place in its head block, and has some bytes from there. -/
structure Frames (written : ChainedStream × UInt64) (contents : List UInt8) : Prop where
  recorded : StreamWriter.Recorded (frameSpan written)
  offset : 0 ≤ toInt written.2 ∧ ∀ b ∈ written.1.blocks.head?, toInt written.2 < b.size
  contents : (visited (frameSpan written)).flatten = contents

theorem frames_of_run {head : Block} (hhead : head.data.length = BlockSize) {outputs : List Output}
    {w : StreamWriter} (hrun : StreamWriter.machine.run (.new head) outputs = some w) {passed contents : List UInt8}
    (hkept : w.kept = passed ++ contents) (hne : contents ≠ []) (hblock : passed.length < BlockSize) :
    Frames (w.stream, passed.length.toUInt64) contents := by
  have hinv := StreamWriter.inv_run hhead hrun
  have hlong : passed.length + 1 ≤ w.kept.length := by
    rw [hkept, List.length_append]
    exact Nat.add_le_add_left (List.length_pos_iff.mpr hne) _
  have hkept_ne : w.kept ≠ [] := List.ne_nil_of_length_pos (Nat.lt_of_lt_of_le (Nat.succ_pos _) hlong)
  have hpassed : ∀ b ∈ w.stream.blocks.head?, passed.length < b.size :=
    hinv.le_size_head (Nat.succ_pos _) hlong hblock
  have hoffset : toInt passed.length.toUInt64 = passed.length := toInt_toUInt64 (Nat.lt_trans hblock (by decide))
  have hframe : frameSpan (w.stream, passed.length.toUInt64) = seek w.stream.closeOutput 0 passed.length := by
    rw [frameSpan, hoffset]
    rfl
  have hrecorded := StreamWriter.Recorded.intro hhead hrun hkept_ne passed.length hpassed
  have hvalid : Valid (seek w.stream.closeOutput 0 passed.length) := Or.inl hrecorded.live
  refine ⟨hframe ▸ hrecorded, ?_, ?_⟩
  · rw [hoffset]
    exact ⟨Int.natCast_nonneg _, fun b hb => Int.ofNat_lt.mpr (hpassed b hb)⟩
  · rw [hframe, visited_eq hvalid]
    refine (hinv.flatten_seek hkept_ne fun b hb => Nat.le_of_lt (hpassed b hb)).trans ?_
    rw [hkept, List.drop_left]

/-- The writer of a stream that space has been reserved in. -/
def reservedWriter (maxHeaderSize : Nat) (head : Block) : StreamWriter :=
  ⟨(reserveHeaderSpace maxHeaderSize (.new head)).1, head.data.take maxHeaderSize, none⟩

/-- Reserving space is a `Next` and a `BackUp`, which leave the memory as it was. -/
theorem run_reserve {head : Block} (hhead : head.data.length = BlockSize) {maxHeaderSize : Nat}
    (hle : maxHeaderSize ≤ BlockSize) :
    StreamWriter.machine.run (.new head) [.next head.data, .backUp (BlockSize - maxHeaderSize)] =
      some (reservedWriter maxHeaderSize head) := by
  have hsub : BlockSize - (BlockSize - maxHeaderSize) = maxHeaderSize := Nat.sub_sub_self hle
  have hdrop : head.data.drop BlockSize = [] := List.drop_eq_nil_of_le (Nat.le_of_eq hhead)
  have hpos : 0 < BlockSize := by decide
  simp [Machine.run, StreamWriter.machine, StreamWriter.step, StreamWriter.new, ChainedStream.new, next, backUp, store,
    nextPosition, modifyCurrent, hpos, hhead, hdrop, hsub, reservedWriter, reserveHeaderSpace]

theorem length_reserved {head : Block} (hhead : head.data.length = BlockSize) {maxHeaderSize : Nat}
    (hle : maxHeaderSize ≤ BlockSize) : (head.data.take maxHeaderSize).length = maxHeaderSize := by
  rw [List.length_take, hhead, Nat.min_eq_left hle]

theorem spanHeader_ne_nil (bodySize : Nat) : spanHeader bodySize ≠ [] :=
  List.append_ne_nil_of_right_ne_nil _ (varint_ne_nil bodySize)

theorem run_reservedWriter {head : Block} (hhead : head.data.length = BlockSize) {maxHeaderSize : Nat}
    (hle : maxHeaderSize ≤ BlockSize) {outputs : List Output} {w : StreamWriter}
    (hrun : StreamWriter.machine.run (reservedWriter maxHeaderSize head) outputs = some w) :
    StreamWriter.machine.run (.new head) ([.next head.data, .backUp (BlockSize - maxHeaderSize)] ++ outputs) = some w ∧
      w.stream.numBytesWritten = w.kept.length := by
  have hall : StreamWriter.machine.run (.new head)
      ([.next head.data, .backUp (BlockSize - maxHeaderSize)] ++ outputs) = some w := by
    rw [Machine.run_append, run_reserve hhead hle]
    exact hrun
  exact ⟨hall, (StreamWriter.inv_run hhead hall).numBytesWritten⟩

/-- The entry of a report's spans that a span is framed as. -/
theorem parseMessage_span {body : List UInt8} (h : body.length < 2 ^ 31) :
    parseMessage (spanHeader body.length ++ body) = some [⟨3, .lengthDelimited body⟩] := by
  have hfits : ∀ f ∈ [Library.Field.mk 3 (.lengthDelimited body)], f.Fits := by
    intro f hf
    rw [List.mem_singleton.mp hf]
    exact fits_mk (by decide) (by decide) h
  have hparse := parseMessage_encode hfits
  simpa [encodeFields, Library.Field.encode, WireValue.encode, WireValue.wireType, spanHeader,
    reportRequestSpansField] using hparse

/-- What a span is framed as for the stream recorder: one chunk. -/
def spanChunk (body : List UInt8) : List UInt8 :=
  chunkHeader ((spanHeader body.length).length + body.length) ++ (spanHeader body.length ++ (body ++ lineBreak))

namespace StreamRecorder

theorem writeHeaders_eq {bodySize : Nat} (hbody : bodySize + maxHeaderSize + chunkedHttpFooter.length < 2 ^ 31)
    {span : ChainedStream} (hspan : span.numBytesWritten = maxHeaderSize + bodySize + chunkedHttpFooter.length) :
    writeHeaders ⟨0, maxHeaderSize⟩ span =
      ((span.storeHead (maxHeaderSize - (spanHeader bodySize).length) (spanHeader bodySize)).storeHead
          (maxHeaderSize - (spanHeader bodySize).length - (chunkHeader ((spanHeader bodySize).length + bodySize)).length)
          (chunkHeader ((spanHeader bodySize).length + bodySize)),
        (maxHeaderSize - (spanHeader bodySize).length -
          (chunkHeader ((spanHeader bodySize).length + bodySize)).length).toUInt64) := by
  have hbody32 : bodySize < 2 ^ 32 := by omega
  have hle : (spanHeader bodySize).length ≤ reportRequestSpansMaxHeaderSize := length_spanHeader_le hbody32
  have hmax : maxHeaderSize = reportRequestSpansMaxHeaderSize + chunkedHttpMaxHeaderSize := rfl
  have hheader : (spanHeader bodySize).length ≤ maxHeaderSize := by omega
  have hchunk : (chunkHeader ((spanHeader bodySize).length + bodySize)).length ≤
      maxHeaderSize - (spanHeader bodySize).length := by
    rw [length_chunkHeader]
    omega
  have hlt : maxHeaderSize < 2 ^ 64 := by decide
  have hlt' : maxHeaderSize - (spanHeader bodySize).length < 2 ^ 64 := Nat.lt_of_le_of_lt (Nat.sub_le _ _) hlt
  have hsize : UInt64.ofInt span.byteCount - chunkedHttpFooter.length.toUInt64 - maxHeaderSize.toUInt64 =
      bodySize.toUInt64 := by
    have hbody : maxHeaderSize + bodySize + chunkedHttpFooter.length - chunkedHttpFooter.length - maxHeaderSize =
        bodySize := by omega
    rw [ofInt_byteCount (by omega), hspan, toUInt64_sub (Nat.le_add_left _ _) (by omega),
      toUInt64_sub (by omega) (by omega), hbody]
  have hchunkSize : bodySize.toUInt64 + (spanHeader bodySize).length.toUInt64 =
      ((spanHeader bodySize).length + bodySize).toUInt64 := by
    rw [toUInt64_add, Nat.add_comm]
  have hspans := writeReportRequestSpansHeader_eq hlt hbody32 hheader span
  have hhttp := writeHttpChunkHeader_eq ((spanHeader bodySize).length + bodySize) hlt'
    (length_chunkHeader _ ▸ hchunk) (span.storeHead (maxHeaderSize - (spanHeader bodySize).length) (spanHeader bodySize))
  simp only [writeHeaders, hsize, toUInt32_toUInt64, hspans, hchunkSize, toUInt64_sub hheader hlt, hhttp,
    toUInt64_sub hchunk hlt']

theorem readChunk_spanChunk {body : List UInt8} (h : (spanHeader body.length).length + body.length < 2 ^ 32)
    (rest : List UInt8) : readChunk (spanChunk body ++ rest) = some (spanHeader body.length ++ body, rest) := by
  have hsize : (spanHeader body.length ++ body).length.toUInt32.toNat = (spanHeader body.length ++ body).length := by
    rw [List.length_append]
    exact UInt32.toNat_ofNat_of_lt' h
  have hread := readHex_uintToHex (k := 4) (spanHeader body.length ++ body).length.toUInt32.toNat_lt 0
  rw [Nat.zero_mul, Nat.zero_add, hsize] at hread
  have hne : uintToHex 4 (spanHeader body.length ++ body).length ≠ [] := fun hnil => by
    have := congrArg List.length hnil
    rw [length_uintToHex] at this
    cases this
  have hchunk := readChunk_append hne hread rest
  simpa [spanChunk, chunkHeader, uint32ToHex, hsize, ← List.length_append] using hchunk

/-- **The stream recorder frames** a span as one chunk with an entry of the report's spans. -/
theorem frames_span {head : Block} (hhead : head.data.length = BlockSize) {outputs : List Output} {w : StreamWriter}
    (hrun : StreamWriter.machine.run (reservedWriter maxHeaderSize head) outputs = some w) {body : List UInt8}
    (hkept : w.kept = head.data.take maxHeaderSize ++ (body ++ chunkedHttpFooter)) (hcount : w.kept.length < 2 ^ 31) :
    (spanHeader body.length).length + chunkedHttpMaxHeaderSize ≤ maxHeaderSize ∧
      Frames (writeHeaders (reserveHeaderSpace maxHeaderSize (.new head)).2 w.stream) (spanChunk body) ∧
      ∀ rest, ∃ data, readChunk (spanChunk body ++ rest) = some (data, rest) ∧
        parseMessage data = some [⟨3, .lengthDelimited body⟩] := by
  have hblock : maxHeaderSize ≤ BlockSize := by decide
  have hreserved := length_reserved hhead hblock
  obtain ⟨hall, hbytes⟩ := run_reservedWriter hhead hblock hrun
  have hlength : w.kept.length = maxHeaderSize + body.length + chunkedHttpFooter.length := by
    rw [hkept, List.length_append, List.length_append, hreserved, Nat.add_assoc]
  have hheader : (spanHeader body.length).length ≤ reportRequestSpansMaxHeaderSize := length_spanHeader_le (by omega)
  have hfit : (spanHeader body.length).length + chunkedHttpMaxHeaderSize ≤ maxHeaderSize :=
    Nat.add_le_add_right hheader _
  obtain ⟨w₁, passed₁, hstep₁, hpassed₁, hstream₁, hkept₁⟩ := step_rewrite_end hkept hreserved hblock
    (Nat.le_trans (Nat.le_add_right _ _) hfit)
  have hchunk : (chunkHeader ((spanHeader body.length).length + body.length)).length ≤
      maxHeaderSize - (spanHeader body.length).length := by
    rw [length_chunkHeader]
    omega
  obtain ⟨w₂, passed₂, hstep₂, hpassed₂, hstream₂, hkept₂⟩ := step_rewrite_end hkept₁ hpassed₁
    (Nat.le_trans (Nat.sub_le _ _) hblock) hchunk
  have hframes := frames_of_run hhead (Machine.run_snoc _ (Machine.run_snoc _ hall hstep₁) hstep₂) hkept₂
    (List.append_ne_nil_of_right_ne_nil _ (List.append_ne_nil_of_left_ne_nil (spanHeader_ne_nil _) _))
    (hpassed₂ ▸ Nat.lt_of_le_of_lt (Nat.le_trans (Nat.sub_le _ _) (Nat.sub_le _ _)) (by decide))
  refine ⟨hfit, ?_, fun rest => ⟨_, readChunk_spanChunk ?_ rest, parseMessage_span (by omega)⟩⟩
  · have hwritten := writeHeaders_eq (by omega) (hbytes.trans hlength)
    rw [hpassed₂, hstream₂, hstream₁] at hframes
    exact hwritten ▸ hframes
  · have hmax : maxHeaderSize = 16 := by decide
    omega

end StreamRecorder

namespace ManualRecorder

theorem writeHeaders_eq {bodySize : Nat} (hbody : bodySize + maxHeaderSize < 2 ^ 31) {span : ChainedStream}
    (hspan : span.numBytesWritten = maxHeaderSize + bodySize) :
    writeHeaders ⟨0, maxHeaderSize⟩ span =
      (span.storeHead (maxHeaderSize - (spanHeader bodySize).length) (spanHeader bodySize),
        (maxHeaderSize - (spanHeader bodySize).length).toUInt64) := by
  have hbody32 : bodySize < 2 ^ 32 := by omega
  have hle : (spanHeader bodySize).length ≤ maxHeaderSize := length_spanHeader_le hbody32
  have hsize : UInt64.ofInt span.byteCount - maxHeaderSize.toUInt64 = bodySize.toUInt64 := by
    rw [ofInt_byteCount (by omega), hspan, toUInt64_sub (Nat.le_add_right _ _) (by omega), Nat.add_sub_cancel_left]
  simp only [writeHeaders, hsize, toUInt32_toUInt64,
    writeReportRequestSpansHeader_eq (by decide : maxHeaderSize < 2 ^ 64) hbody32 hle, toUInt64_sub hle (by decide)]

/-- **The manual recorder frames** a span as an entry of the report's spans. -/
theorem frames_span {head : Block} (hhead : head.data.length = BlockSize) {outputs : List Output} {w : StreamWriter}
    (hrun : StreamWriter.machine.run (reservedWriter maxHeaderSize head) outputs = some w) {body : List UInt8}
    (hkept : w.kept = head.data.take maxHeaderSize ++ body) (hcount : w.kept.length < 2 ^ 31) :
    (spanHeader body.length).length ≤ maxHeaderSize ∧
      Frames (writeHeaders (reserveHeaderSpace maxHeaderSize (.new head)).2 w.stream)
        (spanHeader body.length ++ body) ∧
      parseMessage (spanHeader body.length ++ body) = some [⟨3, .lengthDelimited body⟩] := by
  have hblock : maxHeaderSize ≤ BlockSize := by decide
  have hreserved := length_reserved hhead hblock
  obtain ⟨hall, hbytes⟩ := run_reservedWriter hhead hblock hrun
  have hlength : w.kept.length = maxHeaderSize + body.length := by rw [hkept, List.length_append, hreserved]
  have hle : (spanHeader body.length).length ≤ maxHeaderSize := length_spanHeader_le (by omega)
  obtain ⟨w', passed, hstep, hpassed, hstream, hkept'⟩ := step_rewrite_end hkept hreserved hblock hle
  have hframes := frames_of_run hhead (Machine.run_snoc _ hall hstep) hkept'
    (List.append_ne_nil_of_left_ne_nil (spanHeader_ne_nil _) _)
    (hpassed ▸ Nat.lt_of_le_of_lt (Nat.sub_le _ _) (by decide))
  refine ⟨hle, ?_, parseMessage_span (by omega)⟩
  have hwritten := writeHeaders_eq (by omega) (hbytes.trans hlength)
  rw [hpassed, hstream] at hframes
  exact hwritten ▸ hframes

end ManualRecorder

/-- **A recorder frames a span without a gap**, whatever is serialized to the stream after its header space
was reserved, and however. -/
theorem recordSpan_frames {head : Block} (hhead : head.data.length = BlockSize) (body : List UInt8) :
    (∀ outputs w, StreamWriter.machine.run (reservedWriter StreamRecorder.maxHeaderSize head) outputs = some w →
        w.kept = head.data.take StreamRecorder.maxHeaderSize ++ (body ++ chunkedHttpFooter) → w.kept.length < 2 ^ 31 →
      (spanHeader body.length).length + chunkedHttpMaxHeaderSize ≤ StreamRecorder.maxHeaderSize ∧
      Frames (StreamRecorder.writeHeaders (reserveHeaderSpace StreamRecorder.maxHeaderSize (.new head)).2 w.stream)
        (spanChunk body) ∧
      ∀ rest, ∃ data, readChunk (spanChunk body ++ rest) = some (data, rest) ∧
        parseMessage data = some [⟨3, .lengthDelimited body⟩]) ∧
    (∀ outputs w, StreamWriter.machine.run (reservedWriter ManualRecorder.maxHeaderSize head) outputs = some w →
        w.kept = head.data.take ManualRecorder.maxHeaderSize ++ body → w.kept.length < 2 ^ 31 →
      (spanHeader body.length).length ≤ ManualRecorder.maxHeaderSize ∧
      Frames (ManualRecorder.writeHeaders (reserveHeaderSpace ManualRecorder.maxHeaderSize (.new head)).2 w.stream)
        (spanHeader body.length ++ body) ∧
      parseMessage (spanHeader body.length ++ body) = some [⟨3, .lengthDelimited body⟩]) :=
  ⟨fun _ _ hrun hkept hcount => StreamRecorder.frames_span hhead hrun hkept hcount,
    fun _ _ hrun hkept hcount => ManualRecorder.frames_span hhead hrun hkept hcount⟩

set_option maxRecDepth 4000 in
/-- Three bytes and the footer, of the 240 that are handed out after the reserved ones. -/
theorem recordSpan_frames_three : ∃ w, StreamWriter.machine.run
    (reservedWriter StreamRecorder.maxHeaderSize ⟨0, List.replicate 256 0⟩)
      [.next ([1, 2, 3, 13, 10] ++ List.replicate 235 0), .backUp 235] = some w ∧
    Frames (StreamRecorder.writeHeaders
      (reserveHeaderSpace StreamRecorder.maxHeaderSize (.new ⟨0, List.replicate 256 0⟩)).2 w.stream)
      ([48, 48, 48, 48, 48, 48, 48, 53] ++ [13, 10] ++ [26, 3] ++ [1, 2, 3] ++ [13, 10]) := by
  have hwritten : ∃ w, StreamWriter.machine.run
      (reservedWriter StreamRecorder.maxHeaderSize ⟨0, List.replicate 256 0⟩)
        [.next ([1, 2, 3, 13, 10] ++ List.replicate 235 0), .backUp 235] = some w ∧
      w.kept = List.replicate 16 0 ++ [1, 2, 3, 13, 10] := ⟨_, rfl, rfl⟩
  obtain ⟨w, hrun, hkept⟩ := hwritten
  obtain ⟨-, hframes, -⟩ := (recordSpan_frames List.length_replicate [1, 2, 3]).1 _ w hrun hkept
    (by rw [hkept]; decide)
  exact ⟨w, hrun, hframes⟩

example : StreamRecorder.maxHeaderSize = 16 ∧ ManualRecorder.maxHeaderSize = 6 := by decide

end Lightstep.Recorder
