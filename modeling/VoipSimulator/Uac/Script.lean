import VoipSimulator.Uac.RtpPcap
import VoipSimulator.Uac.Ulaw

/-!
# `gen_rtp_pcap.py` from end to end

The script first encodes `FRAMES` frames of `FRAME_SAMPLES` samples each,
storing `pcm16_to_ulaw` of every sample into a `bytearray`, and then writes
them with the loop of `RtpPcap`. The tone itself, `AMPLITUDE * sin(2π FREQ t)`
at `t = n / SAMPLE_RATE`, is a parameter: `tone n` is `int` of its value at
sample `n`, which is all of it that `pcm16_to_ulaw` reads.

Whatever the tone, no store into the `bytearray` raises, since every μ-law
code is a byte, and every frame fits the pcap loop: the script writes its
whole file, and each record carries the codes of its own 160 samples at the
capture time that the RTP timestamp gives on the 8 kHz media clock
(`gen_rtp_pcap_decodes`).
-/

namespace VoipSimulator.Uac

open VoipSimulator.Python

set_option autoImplicit false

/-- `SAMPLE_RATE`, in Hz. -/
def sampleRate : Nat := 8000

/-- `DURATION_S`. -/
def durationS : Nat := 10

/-- `FRAMES = DURATION_S * (SAMPLE_RATE // FRAME_SAMPLES)`. -/
def frameCount : Nat := durationS * (sampleRate / frameSamples)

/-- `buf[si] = value` on a `bytearray`, which holds integers in `range(0, 256)` only. -/
def storeByte (value : Nat) : Except PyException UInt8 :=
  if value < 256 then .ok value.toUInt8 else .error (.valueError "byte must be in range(0, 256)")

/-- `bytes(buf)` after the inner loop of frame `fi`: sample `si` is sample
`fi * FRAME_SAMPLES + si` of the tone. -/
def encodeFrame (tone : Nat → Int) (fi : Nat) : Except PyException (List UInt8) :=
  (List.range frameSamples).mapM fun si => storeByte (pcm16ToUlaw (tone (fi * frameSamples + si)))

/-- `encoded_frames`. -/
def encodedFrames (tone : Nat → Int) : Except PyException (List (List UInt8)) :=
  (List.range frameCount).mapM (encodeFrame tone)

/-- The file the script leaves, and the exception that escaped, if any; an
exception while encoding leaves no file. -/
def genRtpPcap (tone : Nat → Int) : List UInt8 × Option PyException :=
  match encodedFrames tone with
  | .ok frames => writePcap frames
  | .error raised => ([], some raised)

/-! ### Encoding the frames -/

theorem mapm_eq_ok {α β : Type} (f : α → Except PyException β) (g : α → β) (xs : List α)
    (each : ∀ x ∈ xs, f x = .ok (g x)) : xs.mapM f = .ok (xs.map g) := by
  induction xs with
  | nil => rfl
  | cons x rest ih =>
      rw [List.mapM_cons, each x (List.mem_cons_self _ _), ok_bind,
        ih fun y member => each y (List.mem_cons_of_mem _ member)]
      rfl

theorem pcm16_to_ulaw_lt (sample : Int) : pcm16ToUlaw sample < 256 := by
  simp only [pcm16ToUlaw, ulawEncode]
  omega

theorem encode_frame_eq (tone : Nat → Int) (fi : Nat) :
    encodeFrame tone fi = .ok ((List.range frameSamples).map fun si =>
      (pcm16ToUlaw (tone (fi * frameSamples + si))).toUInt8) :=
  mapm_eq_ok _ _ _ fun si _ => by simp only [storeByte, pcm16_to_ulaw_lt, if_true]

theorem encoded_frames_eq (tone : Nat → Int) :
    encodedFrames tone = .ok ((List.range frameCount).map fun fi =>
      (List.range frameSamples).map fun si => (pcm16ToUlaw (tone (fi * frameSamples + si))).toUInt8) :=
  mapm_eq_ok _ _ _ fun fi _ => encode_frame_eq tone fi

/-! ### The whole run -/

theorem gen_rtp_pcap_of_encoded (tone : Nat → Int) (frames : List (List UInt8))
    (encoded : encodedFrames tone = .ok frames) : genRtpPcap tone = writePcap frames := by
  unfold genRtpPcap
  rw [encoded]

theorem write_pcap_of_written (frames : List (List UInt8)) (bytes : List UInt8)
    (written : writeRecords 0 frames = (bytes, none)) :
    writePcap frames = (encodeFields .little globalFields ++ bytes, none) := by
  simp only [writePcap, global_header_eq, written]

/-- Whatever the tone, the script writes its whole file and raises nothing.
Read back, the file is a pcap of `FRAMES` records, and record `i` carries
the μ-law codes of samples `160 i` to `160 i + 159` as in `RecordCarries`,
at a capture time that is the RTP timestamp `160 i` read on the 8 kHz media
clock. -/
theorem gen_rtp_pcap_decodes (tone : Nat → Int) :
    ∃ bytes records, genRtpPcap tone = (bytes, none) ∧
      decodePcap bytes = some (⟨0xa1b2c3d4, 2, 4, 0, 0, 65535, 1⟩, records) ∧
      records.length = frameCount ∧
      ∀ i record, records[i]? = some record →
        RecordCarries i ((List.range frameSamples).map fun si =>
          (pcm16ToUlaw (tone (i * frameSamples + si))).toUInt8) record ∧
        record.seconds * 1000000 + record.micros = i * frameSamples * 1000000 / sampleRate := by
  have encoded := encoded_frames_eq tone
  generalize framesEq : ((List.range frameCount).map fun fi => (List.range frameSamples).map fun si =>
    (pcm16ToUlaw (tone (fi * frameSamples + si))).toUInt8) = frames at encoded
  have count : frames.length = frameCount := by
    simp only [← framesEq, List.length_map, List.length_range]
  have small : ∀ frame ∈ frames, frame.length ≤ 65000 := by
    intro frame member
    obtain ⟨fi, -, rfl⟩ := List.mem_map.mp (framesEq ▸ member)
    simp [frameSamples]
  obtain ⟨bytes, written, longEnough, decodes⟩ := write_records_decode frames 0 small
    (by simp [count, frameCount, durationS, sampleRate, frameSamples])
  obtain ⟨records, decoded, recordCount, carries⟩ := decodes bytes.length longEnough
  refine ⟨encodeFields .little globalFields ++ bytes, records,
    (gen_rtp_pcap_of_encoded tone frames encoded).trans (write_pcap_of_written frames bytes written),
    by simp [decodePcap, decode_header_eq, decoded], by rw [recordCount, count], ?_⟩
  intro i record atRecord
  have inRange : i < frameCount := by
    simpa [recordCount, count] using (List.getElem?_eq_some_iff.mp atRecord).1
  have carried := carries i record ((List.range frameSamples).map fun si =>
    (pcm16ToUlaw (tone (i * frameSamples + si))).toUInt8) atRecord (by simp [← framesEq, inRange])
  refine ⟨by simpa using carried, ?_⟩
  simp only [carried.seconds, carried.micros, frameSamples, sampleRate]
  omega

end VoipSimulator.Uac
