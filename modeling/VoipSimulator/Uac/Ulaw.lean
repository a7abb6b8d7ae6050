import Mathlib.Tactic.SplitIfs
import Mathlib.Order.MinMax
import Mathlib.Algebra.Group.Nat.Basic

/-! `pcm16_to_ulaw` of `gen_rtp_pcap.py`, which its docstring calls 8-bit G.711
μ-law: clip to `±32635`, add the bias `0x84` to the magnitude, search the
segment from 7 down, and pack sign, segment and four mantissa bits into a
complemented byte. Its search tests `sample >= 1 << (exp + 4)` where G.711's
segment is the biased magnitude's leading bit less 7; `g711Ulaw` is the
encoder with that search and nothing else changed. -/

namespace VoipSimulator.Uac

set_option autoImplicit false

def clip (sample : Int) : Int := max (-32635) (min 32635 sample)

/-- The loop `for exp in range(7, -1, -1)`, which breaks at the first `exp`
with `sample >= (1 << (exp + 4))`; without a `break` it leaves `exp` at 0. -/
def ulawExponent (sample : Nat) : Nat :=
  ((List.range 8).reverse.find? fun exp => 1 <<< (exp + 4) ≤ sample).getD 0

/-- The segment of G.711 μ-law: the largest `exp` with
`sample >= (1 << (exp + 7))`, or 0. -/
def g711Segment (sample : Nat) : Nat :=
  ((List.range 8).reverse.find? fun exp => 1 <<< (exp + 7) ≤ sample).getD 0

def ulawEncode (segment : Nat → Nat) (sample : Int) : Nat :=
  let clipped := clip sample
  let sign := if clipped < 0 then 0x80 else 0x00
  let biased := clipped.natAbs + 0x84
  let exp := segment biased
  let mantissa := (biased >>> (exp + 3)) &&& 0x0F
  255 - (sign ||| (exp <<< 4) ||| mantissa) % 256

def pcm16ToUlaw (sample : Int) : Nat := ulawEncode ulawExponent sample

def g711Ulaw (sample : Int) : Nat := ulawEncode g711Segment sample

/-! ### The two segment searches -/

theorem biased_bounds (sample : Int) :
    132 ≤ (clip sample).natAbs + 0x84 ∧ (clip sample).natAbs + 0x84 < 32768 := by
  unfold clip
  omega

theorem find?_threshold (shift sample : Nat) (large : 2 ^ shift ≤ sample) (top : Nat) :
    ((List.range (top + 1)).reverse.find? fun exp => 2 ^ (exp + shift) ≤ sample) =
      some (min top (sample.log2 - shift)) := by
  have nonzero : sample ≠ 0 := Nat.pos_iff_ne_zero.mp (lt_of_lt_of_le (Nat.two_pow_pos shift) large)
  induction top with
  | zero => simp [List.range_succ, large]
  | succ top ih =>
      rw [List.range_succ, List.reverse_concat]
      by_cases found : 2 ^ (top + 1 + shift) ≤ sample
      · have above := (Nat.le_log2 nonzero).mpr found
        rw [List.find?_cons_of_pos _ (by simpa using found)]
        congr 1
        omega
      · have below := (Nat.log2_lt nonzero).mpr (Nat.lt_of_not_le found)
        rw [List.find?_cons_of_neg _ (by simpa using found), ih]
        congr 1
        omega

theorem ulaw_exponent_eq_log (sample : Nat) (large : 16 ≤ sample) :
    ulawExponent sample = min 7 (sample.log2 - 4) := by
  simp only [ulawExponent, Nat.one_shiftLeft]
  exact congrArg (·.getD 0) (find?_threshold 4 sample large 7)

theorem g711_segment_eq_log (sample : Nat) (large : 128 ≤ sample) :
    g711Segment sample = min 7 (sample.log2 - 7) := by
  simp only [g711Segment, Nat.one_shiftLeft]
  exact congrArg (·.getD 0) (find?_threshold 7 sample large 7)

/-- On every biased magnitude the encoder's segment is G.711's plus three,
capped at 7. -/
theorem ulaw_exponent_eq_min (sample : Nat) (large : 128 ≤ sample) :
    ulawExponent sample = min 7 (g711Segment sample + 3) := by
  have leading := (Nat.le_log2 (k := 7) (by omega)).mpr large
  rw [ulaw_exponent_eq_log sample (by omega), g711_segment_eq_log sample large]
  omega

theorem g711_segment_eq_seven_iff (sample : Nat) (large : 128 ≤ sample) :
    g711Segment sample = 7 ↔ 16384 ≤ sample := by
  rw [g711_segment_eq_log sample large, ← Nat.le_log2 (k := 14) (by omega)]
  omega

/-! ### The byte -/

theorem ulaw_byte_fields :
    ∀ sign ∈ [0, 0x80], ∀ exp < 8, ∀ mantissa < 16,
      sign ||| (exp <<< 4) ||| mantissa = sign + 16 * exp + mantissa := by
  decide

theorem ulaw_encode_eq (segment : Nat → Nat) (sample : Int)
    (bounded : segment ((clip sample).natAbs + 0x84) < 8) :
    ulawEncode segment sample = 255 - ((if clip sample < 0 then 0x80 else 0) +
      16 * segment ((clip sample).natAbs + 0x84) +
      ((clip sample).natAbs + 0x84) >>> (segment ((clip sample).natAbs + 0x84) + 3) % 16) := by
  have sign : (if clip sample < 0 then 0x80 else 0) ∈ [0, 0x80] := by split_ifs <;> simp
  have mantissa := Nat.mod_lt (((clip sample).natAbs + 0x84) >>>
    (segment ((clip sample).natAbs + 0x84) + 3)) (show 0 < 16 by decide)
  rw [ulawEncode, ← Nat.and_pow_two_sub_one_eq_mod _ 4] at *
  rw [ulaw_byte_fields _ sign _ bounded _ mantissa, Nat.mod_eq_of_lt]
  split_ifs <;> omega

theorem ulaw_encode_segment (segment : Nat → Nat) (sample : Int)
    (bounded : segment ((clip sample).natAbs + 0x84) < 8) :
    (255 - ulawEncode segment sample) / 16 % 8 = segment ((clip sample).natAbs + 0x84) := by
  have mantissa := Nat.mod_lt (((clip sample).natAbs + 0x84) >>>
    (segment ((clip sample).natAbs + 0x84) + 3)) (show 0 < 16 by decide)
  rw [ulaw_encode_eq segment sample bounded]
  split_ifs <;> omega

/-- `pcm16_to_ulaw` gives the G.711 μ-law byte exactly for samples of
magnitude 16252 or more, whose biased magnitude is in G.711's top segment;
on every other sample its segment is G.711's plus three, capped at 7. -/
theorem pcm16_to_ulaw_against_g711 (sample : Int) :
    (pcm16ToUlaw sample = g711Ulaw sample ↔ 16252 ≤ sample.natAbs) ∧
      (255 - pcm16ToUlaw sample) / 16 % 8 = min 7 ((255 - g711Ulaw sample) / 16 % 8 + 3) := by
  obtain ⟨large, small⟩ := biased_bounds sample
  have shifted := ulaw_exponent_eq_min _ (by omega : 128 ≤ (clip sample).natAbs + 0x84)
  have g711Bounded : g711Segment ((clip sample).natAbs + 0x84) < 8 := by
    rw [g711_segment_eq_log _ (by omega)]
    omega
  have codeBounded : ulawExponent ((clip sample).natAbs + 0x84) < 8 := by omega
  have magnitude : 16384 ≤ (clip sample).natAbs + 0x84 ↔ 16252 ≤ sample.natAbs := by
    unfold clip
    omega
  have top := (g711_segment_eq_seven_iff ((clip sample).natAbs + 0x84) (by omega)).trans magnitude
  refine ⟨?_, by rw [pcm16ToUlaw, g711Ulaw, ulaw_encode_segment _ _ codeBounded,
    ulaw_encode_segment _ _ g711Bounded, shifted]⟩
  rw [pcm16ToUlaw, g711Ulaw, ulaw_encode_eq _ _ codeBounded, ulaw_encode_eq _ _ g711Bounded,
    shifted, ← top]
  have mantissaCode := Nat.mod_lt (((clip sample).natAbs + 0x84) >>>
    (min 7 (g711Segment ((clip sample).natAbs + 0x84) + 3) + 3)) (show 0 < 16 by decide)
  have mantissaG711 := Nat.mod_lt (((clip sample).natAbs + 0x84) >>>
    (g711Segment ((clip sample).natAbs + 0x84) + 3)) (show 0 < 16 by decide)
  constructor
  · intro same
    split_ifs at same <;> omega
  · intro seven
    rw [seven]
    rfl

example : pcm16ToUlaw 0 = 0xCD ∧ g711Ulaw 0 = 0xFF := by decide

end VoipSimulator.Uac
