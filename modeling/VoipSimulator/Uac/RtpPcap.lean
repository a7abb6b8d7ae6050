import VoipSimulator.Python.Struct

/-!
# `gen_rtp_pcap.py`: the pcap file

The script packs each μ-law frame as Ethernet/IPv4/UDP/RTP and writes the
packets into a little-endian pcap file. Here the frames are the write loop's
input; their computation from a sine wave is not modelled. `writePcap` is the
file the script leaves: the bytes written, and the exception that ended the
loop early, if any.

`_ip` is passed the length of the UDP header and the RTP packet together, and
adds the UDP header's 8 bytes once more, so every packet's IPv4 total-length
field is 8 more than the bytes after the Ethernet header. The reader below
reads each header in turn, delimits the UDP datagram by the UDP length field,
and reports the IPv4 total length as it finds it.
-/

namespace VoipSimulator.Uac

open VoipSimulator.Python

set_option autoImplicit false

/-- `FRAME_SAMPLES`: 20 ms at 8 kHz. -/
def frameSamples : Nat := 160

/-- `_ETH`: placeholder MACs and the EtherType of IPv4. -/
def eth : List UInt8 :=
  [0x00, 0x00, 0x00, 0x00, 0x00, 0x02, 0x00, 0x00, 0x00, 0x00, 0x00, 0x01, 0x08, 0x00]

/-- `_ip(payload_len)`, format `'>BBHHHBBH4s4s'`. -/
def ip (payloadLen : Nat) : Except PyException (List UInt8) :=
  let total := 20 + 8 + payloadLen
  structPack .big [.B, .B, .H, .H, .H, .B, .B, .H, .s 4, .s 4]
    [.int 0x45, .int 0, .int total, .int 0, .int 0, .int 64, .int 17, .int 0,
      .bytes [0x0a, 0x14, 0x00, 0x14], .bytes [0x0a, 0x14, 0x00, 0x0a]]

/-- `_udp(payload_len)`, format `'>HHHH'`. -/
def udp (payloadLen : Nat) : Except PyException (List UInt8) :=
  structPack .big [.H, .H, .H, .H] [.int 10100, .int 10000, .int (8 + payloadLen), .int 0]

/-- `_rtp(seq, timestamp)`, format `'>BBHII'`. -/
def rtp (seq timestamp : Nat) : Except PyException (List UInt8) :=
  structPack .big [.B, .B, .H, .I, .I]
    [.int 0x80, .int 0x00, .int (seq &&& 0xFFFF : Nat), .int timestamp, .int 0xDEADBEEF]

/-- The pcap global header, format `'<IHHiIII'`. -/
def globalHeader : Except PyException (List UInt8) :=
  structPack .little [.I, .H, .H, .i, .I, .I, .I]
    [.int 0xa1b2c3d4, .int 2, .int 4, .int 0, .int 0, .int 65535, .int 1]

/-- `pkt` of loop turn `i`. -/
def packet (i : Nat) (frame : List UInt8) : Except PyException (List UInt8) := do
  let rtpPayload := (← rtp i (i * frameSamples)) ++ frame
  let udpPayload ← udp rtpPayload.length
  let ipPayload ← ip (udpPayload.length + rtpPayload.length)
  return eth ++ ipPayload ++ udpPayload ++ rtpPayload

/-- The pcap record header of loop turn `i`, format `'<IIII'`. -/
def recordHeader (i length : Nat) : Except PyException (List UInt8) :=
  let tsUs := i * 20000
  structPack .little [.I, .I, .I, .I]
    [.int (tsUs / 1000000), .int (tsUs % 1000000), .int length, .int length]

/-- What loop turn `i` writes: the record header, then the packet; both are
built before either is written. -/
def record (i : Nat) (frame : List UInt8) : Except PyException (List UInt8) := do
  let pkt ← packet i frame
  let header ← recordHeader i pkt.length
  return header ++ pkt

/-- One turn of the loop within the rest: a turn that built its bytes writes
them and the loop goes on; a turn that raised writes nothing and ends it. -/
def continueWith (written : Except PyException (List UInt8))
    (rest : List UInt8 × Option PyException) : List UInt8 × Option PyException :=
  match written with
  | .ok bytes => (bytes ++ rest.1, rest.2)
  | .error raised => ([], some raised)

/-- The loop from turn `i` on: the bytes written, and the exception that
stopped it, if any. -/
def writeRecords (i : Nat) : List (List UInt8) → List UInt8 × Option PyException
  | [] => ([], none)
  | frame :: frames => continueWith (record i frame) (writeRecords (i + 1) frames)

/-- The file the script writes from `frames`, and the exception that escaped,
if any. -/
def writePcap (frames : List (List UInt8)) : List UInt8 × Option PyException :=
  match globalHeader with
  | .ok header =>
      let (records, raised) := writeRecords 0 frames
      (header ++ records, raised)
  | .error raised => ([], some raised)

/-! ### Reading the file back -/

structure PcapHeader where
  magic : Nat
  versionMajor : Nat
  versionMinor : Nat
  thiszone : Nat
  sigfigs : Nat
  snaplen : Nat
  network : Nat
  deriving DecidableEq, Repr

structure PcapRecord where
  seconds : Nat
  micros : Nat
  inclLen : Nat
  origLen : Nat
  data : List UInt8
  deriving DecidableEq, Repr

def decodeHeader (bytes : List UInt8) : Option (PcapHeader × List UInt8) :=
  match readFields .little [4, 2, 2, 4, 4, 4, 4] bytes with
  | some ([magic, major, minor, zone, sigfigs, snaplen, network], rest) =>
      some (⟨magic, major, minor, zone, sigfigs, snaplen, network⟩, rest)
  | _ => none

/-- One record: its header, then `incl_len` bytes of data. -/
def decodeRecord (bytes : List UInt8) : Option (PcapRecord × List UInt8) :=
  match readFields .little [4, 4, 4, 4] bytes with
  | some ([seconds, micros, inclLen, origLen], rest) =>
      (readBytes inclLen rest).map fun (data, after) =>
        (⟨seconds, micros, inclLen, origLen, data⟩, after)
  | _ => none

/-- Records until the input ends. Each record takes at least its 16-byte
header, so the input's length is fuel enough. -/
def decodeRecords : Nat → List UInt8 → Option (List PcapRecord)
  | 0, bytes => if bytes.isEmpty then some [] else none
  | fuel + 1, bytes =>
      if bytes.isEmpty then some []
      else match decodeRecord bytes with
        | some (record, rest) => (decodeRecords fuel rest).map (record :: ·)
        | none => none

def decodePcap (bytes : List UInt8) : Option (PcapHeader × List PcapRecord) :=
  match decodeHeader bytes with
  | some (header, rest) => (decodeRecords rest.length rest).map (header, ·)
  | none => none

structure RtpHeader where
  version : Nat
  padding : Nat
  extension : Nat
  csrcCount : Nat
  marker : Nat
  payloadType : Nat
  sequence : Nat
  timestamp : Nat
  ssrc : Nat
  deriving DecidableEq, Repr

/-- What a reader finds in an Ethernet frame. -/
structure DecodedFrame where
  etherType : Nat
  ipVersion : Nat
  ipTotalLength : Nat
  protocol : Nat
  udpLength : Nat
  rtp : RtpHeader
  payload : List UInt8
  deriving DecidableEq, Repr

/-- Ethernet, then the IPv4 header (its fixed fields, then the addresses and
options up to the length IHL gives), then the UDP header,
then the RTP header; the RTP payload is the rest of the UDP datagram as its
length field delimits it. -/
def decodeFrame (frame : List UInt8) : Option DecodedFrame := do
  let ([_, _, etherType], afterEth) ← readFields .big [6, 6, 2] frame | none
  let ([versionIhl, _, totalLength, _, _, _, protocol, _], afterFixed) ←
    readFields .big [1, 1, 2, 2, 2, 1, 1, 2] afterEth | none
  let (_, afterIp) ← readBytes (versionIhl % 16 * 4 - 12) afterFixed
  let ([_, _, udpLength, _], afterUdp) ← readFields .big [2, 2, 2, 2] afterIp | none
  let (datagram, _) ← readBytes (udpLength - 8) afterUdp
  let ([first, second, sequence, timestamp, ssrc], payload) ←
    readFields .big [1, 1, 2, 4, 4] datagram | none
  some ⟨etherType, versionIhl / 16, totalLength, protocol, udpLength,
    ⟨first / 64, first / 32 % 2, first / 16 % 2, first % 16, second / 128, second % 128,
      sequence, timestamp, ssrc⟩, payload⟩

/-! ### What one turn of the loop writes -/

/-- The fields of `_ETH`: two MAC addresses and the EtherType. -/
def ethFields : List (Nat × Nat) := [(6, 2), (6, 1), (2, 0x0800)]

/-- The fields `_ip(payload_len)` packs before the two addresses. -/
def ipFields (payloadLen : Nat) : List (Nat × Nat) :=
  [(1, 0x45), (1, 0), (2, 20 + 8 + payloadLen), (2, 0), (2, 0), (1, 64), (1, 17), (2, 0)]

/-- The source and destination addresses `_ip` packs. -/
def ipAddresses : List UInt8 := [0x0a, 0x14, 0x00, 0x14, 0x0a, 0x14, 0x00, 0x0a]

def udpFields (payloadLen : Nat) : List (Nat × Nat) :=
  [(2, 10100), (2, 10000), (2, 8 + payloadLen), (2, 0)]

def rtpFields (seq timestamp : Nat) : List (Nat × Nat) :=
  [(1, 0x80), (1, 0), (2, seq % 65536), (4, timestamp), (4, 0xDEADBEEF)]

def globalFields : List (Nat × Nat) :=
  [(4, 0xa1b2c3d4), (2, 2), (2, 4), (4, 0), (4, 0), (4, 65535), (4, 1)]

def recordFields (i length : Nat) : List (Nat × Nat) :=
  [(4, i * 20000 / 1000000), (4, i * 20000 % 1000000), (4, length), (4, length)]

theorem eth_eq : eth = encodeFields .big ethFields := rfl

theorem ip_eq (payloadLen : Nat) (fits : 28 + payloadLen < 65536) :
    ip payloadLen = .ok (encodeFields .big (ipFields payloadLen) ++ ipAddresses) := by
  have nonneg : 0 ≤ 28 + (payloadLen : Int) := by omega
  have fitsInt : 28 + (payloadLen : Int) < 65536 := by omega
  have total : (28 + (payloadLen : Int)).toNat = 28 + payloadLen := by omega
  simp [ip, structPack, packAll, FormatCode.pack, packUnsigned, ok_bind, pure_eq_ok, nonneg,
      fitsInt, total, ipFields,
    ipAddresses]

theorem udp_eq (payloadLen : Nat) (fits : 8 + payloadLen < 65536) :
    udp payloadLen = .ok (encodeFields .big (udpFields payloadLen)) := by
  have nonneg : 0 ≤ 8 + (payloadLen : Int) := by omega
  have fitsInt : 8 + (payloadLen : Int) < 65536 := by omega
  have length : (8 + (payloadLen : Int)).toNat = 8 + payloadLen := by omega
  simp [udp, structPack, packAll, FormatCode.pack, packUnsigned, ok_bind, pure_eq_ok, nonneg,
      fitsInt, length, udpFields]

theorem rtp_eq (seq timestamp : Nat) (fits : timestamp < 2 ^ 32) :
    rtp seq timestamp = .ok (encodeFields .big (rtpFields seq timestamp)) := by
  have wrapped : seq &&& 0xFFFF = seq % 65536 := Nat.and_pow_two_sub_one_eq_mod seq 16
  have seqFits : 0 ≤ (seq : Int) % 65536 ∧ (seq : Int) % 65536 < 65536 := by omega
  have seqBytes : ((seq : Int) % 65536).toNat = seq % 65536 := by omega
  have stampFits : 0 ≤ (timestamp : Int) ∧ (timestamp : Int) < 4294967296 := by omega
  simp [rtp, structPack, packAll, FormatCode.pack, packUnsigned, ok_bind, pure_eq_ok, wrapped,
      seqFits, seqBytes,
    stampFits, rtpFields]

theorem global_header_eq : globalHeader = .ok (encodeFields .little globalFields) := by
  simp [globalHeader, structPack, packAll, FormatCode.pack, packUnsigned, ok_bind, pure_eq_ok,
      globalFields]

theorem rtp_error (seq timestamp : Nat) (over : 2 ^ 32 ≤ timestamp) :
    rtp seq timestamp = .error (unsignedRangeError "I" 4) := by
  have wrapped : seq &&& 0xFFFF = seq % 65536 := Nat.and_pow_two_sub_one_eq_mod seq 16
  have seqFits : 0 ≤ (seq : Int) % 65536 ∧ (seq : Int) % 65536 < 65536 := by omega
  have stampOver : ¬ (timestamp : Int) < 4294967296 := by omega
  simp [rtp, structPack, packAll, FormatCode.pack, packUnsigned, ok_bind, error_bind, wrapped,
    seqFits, stampOver]

theorem udp_error (payloadLen : Nat) (over : 65536 ≤ 8 + payloadLen) :
    udp payloadLen = .error (unsignedRangeError "H" 2) := by
  have lengthOver : ¬ 8 + (payloadLen : Int) < 65536 := by omega
  simp [udp, structPack, packAll, FormatCode.pack, packUnsigned, ok_bind, error_bind, lengthOver]

theorem ip_error (payloadLen : Nat) (over : 65536 ≤ 28 + payloadLen) :
    ip payloadLen = .error (unsignedRangeError "H" 2) := by
  have totalOver : ¬ 28 + (payloadLen : Int) < 65536 := by omega
  simp [ip, structPack, packAll, FormatCode.pack, packUnsigned, ok_bind, error_bind, totalOver]

/-- The bytes of packet `i` around a frame of `length` bytes: Ethernet, the
IPv4 header packed for a payload of `20 + length` bytes, the UDP header for
`12 + length` bytes, and the RTP header. -/
def packetHeader (i length : Nat) : List UInt8 :=
  encodeFields .big ethFields ++ encodeFields .big (ipFields (20 + length)) ++ ipAddresses ++
    encodeFields .big (udpFields (12 + length)) ++ encodeFields .big (rtpFields i (i * frameSamples))

theorem length_packet_header (i length : Nat) : (packetHeader i length).length = 54 := by
  simp [packetHeader, ethFields, ipFields, ipAddresses, udpFields, rtpFields]

/-- A frame of at most 65487 bytes keeps the IPv4 total length `48 + len(frame)`
within 16 bits. -/
theorem packet_eq (i : Nat) (frame : List UInt8) (fits : frame.length ≤ 65487)
    (stamp : i * frameSamples < 2 ^ 32) :
    packet i frame = .ok (packetHeader i frame.length ++ frame) := by
  have rtpLength : (encodeFields .big (rtpFields i (i * frameSamples))).length = 12 := by
    simp [rtpFields]
  have udpLength : (encodeFields .big (udpFields (12 + frame.length))).length = 8 := by
    simp [udpFields]
  unfold packet
  rw [rtp_eq i _ stamp, ok_bind]
  dsimp only
  rw [List.length_append, rtpLength, udp_eq (12 + frame.length) (by omega), ok_bind, udpLength,
    show 8 + (12 + frame.length) = 20 + frame.length by omega, ip_eq (20 + frame.length) (by omega),
    ok_bind, pure_eq_ok, packetHeader, eth_eq]
  simp only [List.append_assoc]

/-- Otherwise the packet raises: `_rtp` on a timestamp past 32 bits, or else
`_udp` or `_ip` on a length past 16 bits. -/
theorem packet_error (i : Nat) (frame : List UInt8)
    (overflow : 65487 < frame.length ∨ 2 ^ 32 ≤ i * frameSamples) :
    packet i frame = .error (if 2 ^ 32 ≤ i * frameSamples then unsignedRangeError "I" 4
      else unsignedRangeError "H" 2) := by
  unfold packet
  by_cases stamp : 2 ^ 32 ≤ i * frameSamples
  · rw [rtp_error i _ stamp, error_bind, if_pos stamp]
  · have rtpLength : (encodeFields .big (rtpFields i (i * frameSamples))).length = 12 := by
      simp [rtpFields]
    rw [rtp_eq i _ (by omega), ok_bind, if_neg stamp]
    dsimp only
    rw [List.length_append, rtpLength]
    by_cases udpOver : 65536 ≤ 8 + (12 + frame.length)
    · rw [udp_error _ udpOver, error_bind]
    · rw [udp_eq _ (by omega), ok_bind, ip_error _ (by simp [udpFields]; omega), error_bind]

/-- Read back, packet `i` is an RTP packet over UDP over IPv4 with every
header as packed, the frame as its payload, and an IPv4 total length 8 more
than the 40 header bytes and the frame that follow the Ethernet header. -/
theorem decode_frame_packet (i : Nat) (frame : List UInt8) (small : frame.length ≤ 65000)
    (stamp : i * frameSamples < 2 ^ 32) :
    decodeFrame (packetHeader i frame.length ++ frame) =
      some ⟨0x0800, 4, 48 + frame.length, 17, 20 + frame.length,
        ⟨2, 0, 0, 0, 0, 0, i % 65536, i * frameSamples, 0xDEADBEEF⟩, frame⟩ := by
  have ethFit : ∀ field ∈ ethFields, field.2 < 256 ^ field.1 := by decide
  have ipFit : ∀ field ∈ ipFields (20 + frame.length), field.2 < 256 ^ field.1 := by
    simp [ipFields]
    omega
  have udpFit : ∀ field ∈ udpFields (12 + frame.length), field.2 < 256 ^ field.1 := by
    simp [udpFields]
    omega
  have rtpFit : ∀ field ∈ rtpFields i (i * frameSamples), field.2 < 256 ^ field.1 := by
    simp [rtpFields]
    omega
  have rtpLength : (encodeFields .big (rtpFields i (i * frameSamples)) ++ frame).length =
      20 + frame.length - 8 := by
    simp [rtpFields]
    omega
  have addresses : ∀ rest, readBytes 8 (ipAddresses ++ rest) = some (ipAddresses, rest) :=
    fun rest => read_bytes_append ipAddresses rest rfl
  have ethValues : ethFields.map Prod.snd = [2, 1, 0x0800] := rfl
  have ipValues : (ipFields (20 + frame.length)).map Prod.snd =
      [0x45, 0, 48 + frame.length, 0, 0, 64, 17, 0] := by
    simp [ipFields]
    omega
  have udpValues : (udpFields (12 + frame.length)).map Prod.snd =
      [10100, 10000, 20 + frame.length, 0] := by
    simp [udpFields]
    omega
  have rtpValues : (rtpFields i (i * frameSamples)).map Prod.snd =
      [0x80, 0, i % 65536, i * frameSamples, 0xDEADBEEF] := rfl
  simp only [packetHeader, List.append_assoc, decodeFrame,
    read_fields_layer .big ethFields [6, 6, 2] rfl ethFit,
    read_fields_layer .big (ipFields (20 + frame.length)) [1, 1, 2, 2, 2, 1, 1, 2] rfl ipFit,
    read_fields_layer .big (udpFields (12 + frame.length)) [2, 2, 2, 2] rfl udpFit,
    read_fields_layer .big (rtpFields i (i * frameSamples)) [1, 1, 2, 4, 4] rfl rtpFit,
    Option.bind_eq_bind, Option.some_bind, ethValues, ipValues, udpValues, rtpValues,
    addresses, read_bytes_all _ rtpLength,
    Nat.reduceMod, Nat.reduceMul, Nat.reduceSub, Nat.reduceDiv]

example : (packet 0 [0xFF]).map (fun pkt => (pkt.length, (decodeFrame pkt).map (·.ipTotalLength))) =
    .ok (55, some 49) := by
  rfl

theorem record_header_eq (i length : Nat) (stamp : i * frameSamples < 2 ^ 32)
    (fits : length < 2 ^ 32) :
    recordHeader i length = .ok (encodeFields .little (recordFields i length)) := by
  have small : i * 160 < 4294967296 := by simpa [frameSamples] using stamp
  have seconds : 0 ≤ (i : Int) * 20000 / 1000000 ∧ (i : Int) * 20000 / 1000000 < 4294967296 := by
    omega
  have secondsNat : ((i : Int) * 20000 / 1000000).toNat = i * 20000 / 1000000 := by omega
  have micros : 0 ≤ (i : Int) * 20000 % 1000000 ∧ (i : Int) * 20000 % 1000000 < 4294967296 := by
    omega
  have microsNat : ((i : Int) * 20000 % 1000000).toNat = i * 20000 % 1000000 := by omega
  have lengthFits : 0 ≤ (length : Int) ∧ (length : Int) < 4294967296 := by omega
  simp [recordHeader, structPack, packAll, FormatCode.pack, packUnsigned, ok_bind, pure_eq_ok,
      seconds, secondsNat,
    micros, microsNat, lengthFits, recordFields]

theorem record_eq (i : Nat) (frame : List UInt8) (fits : frame.length ≤ 65487)
    (stamp : i * frameSamples < 2 ^ 32) :
    record i frame = .ok (encodeFields .little (recordFields i (54 + frame.length)) ++
      (packetHeader i frame.length ++ frame)) := by
  unfold record
  rw [packet_eq i frame fits stamp, ok_bind, List.length_append, length_packet_header,
    record_header_eq i _ stamp (by omega), ok_bind, pure_eq_ok]

/-- A turn whose packet raises writes nothing: the record header is packed
after the packet. -/
theorem record_error (i : Nat) (frame : List UInt8)
    (overflow : 65487 < frame.length ∨ 2 ^ 32 ≤ i * frameSamples) :
    record i frame = .error (if 2 ^ 32 ≤ i * frameSamples then unsignedRangeError "I" 4
      else unsignedRangeError "H" 2) := by
  unfold record
  rw [packet_error i frame overflow, error_bind]

/-! ### Reading the whole file -/

theorem decode_header_eq (rest : List UInt8) :
    decodeHeader (encodeFields .little globalFields ++ rest) =
      some (⟨0xa1b2c3d4, 2, 4, 0, 0, 65535, 1⟩, rest) := by
  simp only [decodeHeader,
    read_fields_layer .little globalFields [4, 2, 2, 4, 4, 4, 4] rfl (by decide) rest]
  rfl

theorem decode_record_eq (i length : Nat) (data rest : List UInt8) (sized : data.length = length)
    (stamp : i * frameSamples < 2 ^ 32) (fits : length < 2 ^ 32) :
    decodeRecord (encodeFields .little (recordFields i length) ++ (data ++ rest)) =
      some (⟨i * 20000 / 1000000, i * 20000 % 1000000, length, length, data⟩, rest) := by
  have small : i * 160 < 4294967296 := by simpa [frameSamples] using stamp
  have fit : ∀ field ∈ recordFields i length, field.2 < 256 ^ field.1 := by
    simp [recordFields]
    omega
  have values : (recordFields i length).map Prod.snd =
      [i * 20000 / 1000000, i * 20000 % 1000000, length, length] := rfl
  simp only [decodeRecord, read_fields_layer .little (recordFields i length) [4, 4, 4, 4] rfl fit,
    values, read_bytes_append data rest sized, Option.map_some']

/-- What a reader finds in record `index` of the file written from `frame`:
the timestamp of loop turn `index`, both lengths equal to the packet's, and
the packet as `decode_frame_packet` reads it, with its IPv4 total length 8 more
than the bytes after the Ethernet header. -/
structure RecordCarries (index : Nat) (frame : List UInt8) (record : PcapRecord) : Prop where
  seconds : record.seconds = index * 20000 / 1000000
  micros : record.micros = index * 20000 % 1000000
  incl_len : record.inclLen = record.data.length
  orig_len : record.origLen = record.data.length
  decoded : decodeFrame record.data = some ⟨0x0800, 4, record.data.length - 14 + 8, 17,
    record.data.length - 14 - 20,
    ⟨2, 0, 0, 0, 0, 0, index % 65536, index * frameSamples, 0xDEADBEEF⟩, frame⟩

theorem record_carries_packet (i : Nat) (frame : List UInt8) (small : frame.length ≤ 65000)
    (stamp : i * frameSamples < 2 ^ 32) :
    RecordCarries i frame ⟨i * 20000 / 1000000, i * 20000 % 1000000, 54 + frame.length,
      54 + frame.length, packetHeader i frame.length ++ frame⟩ := by
  have length : (packetHeader i frame.length ++ frame).length = 54 + frame.length := by
    rw [List.length_append, length_packet_header]
  refine ⟨rfl, rfl, length.symm, length.symm, ?_⟩
  rw [decode_frame_packet i frame small stamp, length,
    show 54 + frame.length - 14 + 8 = 48 + frame.length by omega,
    show 54 + frame.length - 14 - 20 = 20 + frame.length by omega]

/-- The loop from turn `i` on writes every record, and reading its bytes back
gives one record per frame, in order. -/
theorem write_records_decode (frames : List (List UInt8)) :
    ∀ i, (∀ frame ∈ frames, frame.length ≤ 65000) →
      (i + frames.length - 1) * frameSamples < 2 ^ 32 →
      ∃ bytes, writeRecords i frames = (bytes, none) ∧ frames.length ≤ bytes.length ∧
        ∀ fuel, frames.length ≤ fuel → ∃ records, decodeRecords fuel bytes = some records ∧
          records.length = frames.length ∧
          ∀ j record frame, records[j]? = some record → frames[j]? = some frame →
            RecordCarries (i + j) frame record := by
  induction frames with
  | nil =>
      intro i _ _
      refine ⟨[], rfl, le_refl _, fun fuel _ => ⟨[], by cases fuel <;> rfl, rfl, ?_⟩⟩
      intro j record frame _ none
      cases none
  | cons frame rest ih =>
      intro i small stamps
      have headSmall := small frame (List.mem_cons_self _ _)
      have stamp : i * frameSamples < 2 ^ 32 :=
        lt_of_le_of_lt (Nat.mul_le_mul_right _ (by simp)) stamps
      obtain ⟨restBytes, written, longEnough, decodes⟩ := ih (i + 1)
        (fun other member => small other (List.mem_cons_of_mem _ member))
        (by simpa [Nat.add_assoc, Nat.add_comm 1] using stamps)
      have step : writeRecords i (frame :: rest) =
          (encodeFields .little (recordFields i (54 + frame.length)) ++
            ((packetHeader i frame.length ++ frame) ++ restBytes), none) := by
        rw [writeRecords, record_eq i frame (by omega) stamp, written]
        simp only [continueWith, List.append_assoc]
      refine ⟨_, step, ?_, fun fuel enough => ?_⟩
      · simp [length_packet_header, recordFields]
        omega
      obtain ⟨fuel, rfl⟩ : ∃ rest, fuel = rest + 1 := ⟨fuel - 1, by simp at enough; omega⟩
      obtain ⟨records, decoded, count, carries⟩ := decodes fuel (by simp at enough; omega)
      refine ⟨⟨i * 20000 / 1000000, i * 20000 % 1000000, 54 + frame.length, 54 + frame.length,
        packetHeader i frame.length ++ frame⟩ :: records, ?_, by simp [count], ?_⟩
      · have nonempty : (encodeFields .little (recordFields i (54 + frame.length)) ++
            ((packetHeader i frame.length ++ frame) ++ restBytes)).isEmpty = false := by
          rw [Bool.eq_false_iff]
          intro empty
          have := congrArg List.length (List.isEmpty_iff.mp empty)
          simp [recordFields] at this
        simp only [decodeRecords, nonempty, Bool.false_eq_true, if_false,
          decode_record_eq i (54 + frame.length) (packetHeader i frame.length ++ frame) restBytes
            (by rw [List.length_append, length_packet_header]) stamp (by omega), decoded,
          Option.map_some']
      · intro j record' frame' atRecord atFrame
        cases j with
        | zero =>
            simp only [List.getElem?_cons_zero, Option.some.injEq] at atRecord atFrame
            subst atRecord atFrame
            exact record_carries_packet i frame headSmall stamp
        | succ j =>
            simp only [List.getElem?_cons_succ] at atRecord atFrame
            simpa [Nat.add_assoc, Nat.add_comm 1] using carries j record' frame' atRecord atFrame

/-- The file the script writes from frames of at most 65000 bytes, with RTP
timestamps below `2 ^ 32`: every record is written and no exception escapes;
read back, the global header is little-endian pcap 2.4 with snaplen 65535 and
link type Ethernet, and record `i` carries frame `i` with the timestamp of
turn `i`, both lengths equal to the packet's, and every header field as
packed, except the IPv4 total length, which exceeds the bytes after the
Ethernet header by 8. -/
theorem written_pcap_decodes (frames : List (List UInt8))
    (small : ∀ frame ∈ frames, frame.length ≤ 65000)
    (stamps : frameSamples * (frames.length - 1) < 2 ^ 32) :
    ∃ bytes records, writePcap frames = (bytes, none) ∧
      decodePcap bytes = some (⟨0xa1b2c3d4, 2, 4, 0, 0, 65535, 1⟩, records) ∧
      records.length = frames.length ∧
      ∀ i record frame, records[i]? = some record → frames[i]? = some frame →
        RecordCarries i frame record := by
  obtain ⟨bytes, written, longEnough, decodes⟩ :=
    write_records_decode frames 0 small (by simpa [Nat.mul_comm] using stamps)
  obtain ⟨records, decoded, count, carries⟩ := decodes bytes.length longEnough
  refine ⟨encodeFields .little globalFields ++ bytes, records,
    by simp only [writePcap, global_header_eq, written], ?_, count,
    fun i record frame atRecord atFrame => by simpa using carries i record frame atRecord atFrame⟩
  simp [decodePcap, decode_header_eq, decoded]

theorem one_byte_frame_pcap :
    (∀ frame ∈ [[0xFF]], frame.length ≤ 65000) ∧ frameSamples * ([[0xFF]].length - 1) < 2 ^ 32 ∧
      ∃ bytes records, writePcap [[0xFF]] = (bytes, none) ∧
        decodePcap bytes = some (⟨0xa1b2c3d4, 2, 4, 0, 0, 65535, 1⟩, records) ∧
        records.length = 1 ∧
        ∀ i record frame, records[i]? = some record → [[0xFF]][i]? = some frame →
          RecordCarries i frame record :=
  ⟨by decide, by decide, written_pcap_decodes [[0xFF]] (by decide) (by decide)⟩

/-! ### Where the loop stops -/

/-- The loop over frames that all fit writes all their records and goes on
with what follows from the next turn. -/
theorem write_records_append_of_fit (before rest : List (List UInt8)) :
    ∀ i, (∀ frame ∈ before, frame.length ≤ 65487) →
      (i + before.length - 1) * frameSamples < 2 ^ 32 →
      (writeRecords i before).2 = none ∧
        writeRecords i (before ++ rest) = ((writeRecords i before).1 ++
          (writeRecords (i + before.length) rest).1, (writeRecords (i + before.length) rest).2) := by
  induction before with
  | nil => intro i _ _; simp [writeRecords]
  | cons frame before ih =>
      intro i fit stamps
      have stamp : i * frameSamples < 2 ^ 32 := by
        simp only [frameSamples, List.length_cons] at *
        omega
      obtain ⟨complete, appended⟩ := ih (i + 1) (fun other member => fit other
        (List.mem_cons_of_mem _ member)) (by simp only [frameSamples, List.length_cons] at *; omega)
      rw [List.cons_append, writeRecords, writeRecords, record_eq i frame
        (fit frame (List.mem_cons_self _ _)) stamp, appended, List.length_cons,
        show i + 1 + before.length = i + (before.length + 1) by omega]
      exact ⟨complete, by simp only [continueWith, List.append_assoc]⟩

/-- The loop stops at the first frame whose packet does not fit: `_rtp`
raises on an RTP timestamp `160 * i` past 32 bits, and otherwise `_udp` or
`_ip` on a frame of more than 65487 bytes, whose lengths pass 16 bits. The
file left behind is exactly the file the frames before it give on their own,
which the loop writes to the end, and the exception escapes. -/
theorem write_pcap_stops_at_overflow (before : List (List UInt8)) (frame : List UInt8)
    (after : List (List UInt8)) (fit : ∀ frame ∈ before, frame.length ≤ 65487)
    (stamps : (before.length - 1) * frameSamples < 2 ^ 32)
    (overflow : 65487 < frame.length ∨ 2 ^ 32 ≤ before.length * frameSamples) :
    (writePcap before).2 = none ∧
      writePcap (before ++ frame :: after) = ((writePcap before).1,
        some (if 2 ^ 32 ≤ before.length * frameSamples then unsignedRangeError "I" 4
          else unsignedRangeError "H" 2)) := by
  obtain ⟨complete, appended⟩ := write_records_append_of_fit before (frame :: after) 0 fit
    (by simpa using stamps)
  rw [Nat.zero_add, writeRecords, record_error _ frame overflow] at appended
  simp only [continueWith, List.append_nil] at appended
  cases written : writeRecords 0 before with
  | mk records raised =>
      rw [written] at complete appended
      simp only [writePcap, global_header_eq, appended, written]
      exact ⟨complete, trivial⟩

/-- A frame of 65488 bytes after a one-byte frame. -/
theorem oversized_frame_stops_pcap :
    (∀ frame ∈ [[0xFF]], frame.length ≤ 65487) ∧ ([[0xFF]].length - 1) * frameSamples < 2 ^ 32 ∧
      (65487 < (List.replicate 65488 (0 : UInt8)).length ∨
        2 ^ 32 ≤ [[0xFF]].length * frameSamples) ∧
      (writePcap [[0xFF]]).2 = none ∧
      writePcap ([[0xFF]] ++ List.replicate 65488 0 :: []) = ((writePcap [[0xFF]]).1,
        some (if 2 ^ 32 ≤ [[(0xFF : UInt8)]].length * frameSamples then unsignedRangeError "I" 4
          else unsignedRangeError "H" 2)) :=
  have oversized : 65487 < (List.replicate 65488 (0 : UInt8)).length := by
    rw [List.length_replicate]
    decide
  ⟨by decide, by decide, .inl oversized,
    write_pcap_stops_at_overflow [[0xFF]] _ [] (by decide) (by decide) (.inl oversized)⟩

end VoipSimulator.Uac
