import AoipCore.Library.BinaryFloat
import AoipCore.Library.Sawtooth
import AoipCore.Library.SineSeries
import AoipCore.System

/-!
# The tone generator (`tone.c`, `tonegen.c`)

`tone_period` is the phase of the tone as a part of a whole cycle, in `float`. It
grows by `tone_delta` with every frame and is set to zero once it reaches one, so
the rest beyond one is lost. `sinf` is up to the C library.
-/

namespace AoipCore.Tone

open ByteBuffer BinaryFloat Sawtooth SineSeries AoipCore.Host AoipCore.Timer AoipCore.Rtp AoipCore.Queue
  AoipCore.Record AoipCore.Playback AoipCore.Wav AoipCore.Rtpdump AoipCore.Dump AoipCore.System

set_option autoImplicit false

/-- `TONE_FREQ_A4 / aoip->audio_sampling_rate`, the rate being turned into a
`float` first. A rate of zero makes it infinite, and `tone_period` stays zero. -/
def toneDelta (audioSamplingRate : UInt32) : ℚ :=
  binary32.round (440 / binary32.round audioSamplingRate.toNat)

def nextPeriod (toneDelta tonePeriod : ℚ) : ℚ :=
  if binary32.round (tonePeriod + toneDelta) ≥ 1 then 0
  else binary32.round (tonePeriod + toneDelta)

/-- `tone_period` when frame number `frame` is generated, from `tonegen_ao_init` on. -/
def tonePeriod (audioSamplingRate : UInt32) (frame : Nat) : ℚ :=
  (nextPeriod (toneDelta audioSamplingRate))^[frame] 0

/-! ## The cycle of the phase -/

def halfPlace : ℚ := 1 / 33554432

theorem float_one : binary32.round 1 = 1 := by decide +kernel

theorem float_error {x : ℚ} (below : |x| < 1) : |binary32.round x - x| ≤ halfPlace := by
  have error : |binary32.round x - x| ≤ 2 ^ ((0 : ℤ) - binary32.precision) / 2 :=
    Format.round_error_below (by rwa [zpow_zero]) (by decide)
  have value : (2 : ℚ) ^ ((0 : ℤ) - binary32.precision) / 2 = halfPlace := by
    norm_num [binary32, halfPlace]
  rwa [value] at error

/-- Even at the highest rate the phase moves by a last place or more. -/
theorem tone_delta_large (audioSamplingRate : UInt32) (sampling : 0 < audioSamplingRate.toNat) :
    2 * halfPlace ≤ toneDelta audioSamplingRate := by
  have bound := audioSamplingRate.toNat_lt
  have least : (1 : ℚ) ≤ audioSamplingRate.toNat := Nat.one_le_cast.mpr sampling
  have most : (audioSamplingRate.toNat : ℚ) ≤ 4294967296 := by
    exact_mod_cast bound.le
  have top : binary32.round 4294967296 = 4294967296 := by decide +kernel
  have place : binary32.round (2 * halfPlace) = 2 * halfPlace := by decide +kernel
  have rateLow : 1 ≤ binary32.round audioSamplingRate.toNat := by
    rw [← float_one]
    exact Format.round_mono zero_le_one least
  have rateHigh : binary32.round audioSamplingRate.toNat ≤ 4294967296 := by
    rw [← top]
    exact Format.round_mono (Nat.cast_nonneg _) most
  have quotient : 2 * halfPlace ≤ 440 / binary32.round audioSamplingRate.toNat := by
    rw [le_div_iff₀ (zero_lt_one.trans_le rateLow), halfPlace]
    linarith
  rw [toneDelta, ← place]
  exact Format.round_mono (by norm_num [halfPlace]) quotient

theorem period_climbs (audioSamplingRate : UInt32) (sampling : 0 < audioSamplingRate.toNat) :
    Climbs (nextPeriod (toneDelta audioSamplingRate))
      (toneDelta audioSamplingRate - halfPlace) (toneDelta audioSamplingRate + halfPlace) := by
  have large := tone_delta_large audioSamplingRate sampling
  have place : 0 < halfPlace := by norm_num [halfPlace]
  constructor
  · linarith
  · intro period nonneg below
    have positive : 0 < period + toneDelta audioSamplingRate := by linarith
    rcases lt_or_ge (period + toneDelta audioSamplingRate) 1 with inside | beyond
    · have error := abs_le.mp (float_error (by rwa [abs_of_pos positive]))
      unfold nextPeriod
      split_ifs with reached
      · exact .inl ⟨rfl, by linarith⟩
      · exact .inr ⟨by linarith, by linarith, not_le.mp reached⟩
    · have reached : 1 ≤ binary32.round (period + toneDelta audioSamplingRate) := by
        rw [← float_one]
        exact Format.round_mono zero_le_one beyond
      rw [nextPeriod, if_pos reached]
      exact .inl ⟨rfl, by linarith⟩

/-- At every rate the tone repeats itself after a whole number of frames, the first
at which `tone_delta` has added up to one, give or take the rounding: the phase
comes back to zero exactly there and the rest beyond one is lost. -/
theorem tone_repeats (audioSamplingRate : UInt32) (sampling : 0 < audioSamplingRate.toNat) :
    ∃ cycle : Nat, 0 < cycle ∧
      (cycle - 1 : ℚ) * (toneDelta audioSamplingRate - halfPlace) < 1 ∧
      1 ≤ cycle * (toneDelta audioSamplingRate + halfPlace) ∧
      (∀ frame, tonePeriod audioSamplingRate (frame + cycle) =
        tonePeriod audioSamplingRate frame) ∧
      (∀ frame, 0 < frame → frame < cycle → tonePeriod audioSamplingRate frame ≠ 0) ∧
      ∀ frame, 0 ≤ tonePeriod audioSamplingRate frame ∧ tonePeriod audioSamplingRate frame < 1 := by
  have climbs := period_climbs audioSamplingRate sampling
  obtain ⟨cycle, positive, back, first, atMost, atLeast⟩ := returns climbs
  refine ⟨cycle, positive, atMost, atLeast, ?_, first, stays_below climbs⟩
  intro frame
  rw [tonePeriod, Function.iterate_add_apply, back, tonePeriod]

/-- At 48 kHz the A4 comes out with 110 frames a cycle, which is 436.36 Hz. -/
theorem cycle_at_48_khz :
    ∃ cycle : Nat, cycle = 110 ∧
      ∀ frame, tonePeriod 48000 (frame + cycle) = tonePeriod 48000 frame := by
  obtain ⟨cycle, positive, atMost, atLeast, again, -⟩ := tone_repeats 48000 (by decide)
  have delta : toneDelta 48000 = 9842633 / 1073741824 := by decide +kernel
  rw [delta, halfPlace] at atMost atLeast
  refine ⟨cycle, ?_, again⟩
  have low : (109 : ℚ) < cycle := by linarith
  have high : (cycle : ℚ) < 111 := by linarith
  have lowNat : 109 < cycle := by exact_mod_cast low
  have highNat : cycle < 111 := by exact_mod_cast high
  omega

/-! ## Samples -/

def mPi : ℚ := binary64.round (314159265358979323846 / 100000000000000000000)

def twoPi : ℚ := binary64.round (2 * mPi)

/-- The product is a `double`, the argument of `sinf` a `float`. -/
def generateToneData (sinf : ℚ → ℚ) (period : ℚ) : ℚ :=
  sinf (binary32.round (binary64.round (twoPi * period)))

def floatToI32 (tonef : ℚ) : Int32 :=
  if tonef ≥ 1 then 2147483647
  else if tonef ≤ -1 then -2147483648
  else Int32.ofInt (truncate (binary64.round (tonef * 2147483648)))

/-- `l24_t.u8` of a host that keeps the lowest byte first. -/
def l24U8 (i32 : Int32) (index : Nat) : UInt8 :=
  (littleBytes 4 i32.toUInt32.toNat).getD index 0

/-- The six bytes of a frame, with the same sample on both channels. -/
def toneFrame (tonef : ℚ) : Bytes :=
  let tonei := floatToI32 tonef
  [l24U8 tonei 3, l24U8 tonei 2, l24U8 tonei 1, l24U8 tonei 3, l24U8 tonei 2, l24U8 tonei 1]

/-- What C says of the function: a `float` between the two ends. -/
structure Sine (sinf : ℚ → ℚ) : Prop where
  float : ∀ x, binary32.round (sinf x) = sinf x
  low : ∀ x, -1 ≤ sinf x
  high : ∀ x, sinf x ≤ 1

/-- No bit of a `float` is lost in the product, which fits an `int32_t`. -/
theorem float_to_i32_exact {tonef : ℚ} (float : binary32.round tonef = tonef)
    (low : -1 < tonef) (high : tonef < 1) :
    (floatToI32 tonef).toInt = truncate (tonef * 2147483648) := by
  have scale : (2147483648 : ℚ) = 2 ^ (31 : ℤ) := by norm_num
  have exact : binary64.round (tonef * 2147483648) = tonef * 2147483648 := by
    rw [scale]
    exact Format.round_scaled float 31 (by decide) (by decide)
  have inside : -2147483648 < truncate (tonef * 2147483648) ∧
      truncate (tonef * 2147483648) < 2147483648 := by
    apply truncate_between (by decide) (by decide)
    · push_cast
      linarith
    · push_cast
      linarith
  rw [floatToI32, if_neg (not_le.mpr high), if_neg (not_le.mpr low), exact]
  exact Int32.toInt_ofInt_of_le inside.1.le inside.2

theorem float_to_i32_close {tonef : ℚ} (float : binary32.round tonef = tonef)
    (low : -1 ≤ tonef) (high : tonef ≤ 1) :
    |((floatToI32 tonef).toInt : ℚ) - tonef * 2147483648| ≤ 1 := by
  rcases high.eq_or_lt with rfl | below
  · have value : (floatToI32 1).toInt = 2147483647 := by decide +kernel
    rw [value]
    norm_num
  rcases low.eq_or_lt with rfl | above
  · have value : (floatToI32 (-1)).toInt = -2147483648 := by decide +kernel
    rw [value]
    norm_num
  · rw [float_to_i32_exact float above below]
    exact (truncate_error _).le

def signed24 (value : Nat) : ℤ := if value < 8388608 then value else value - 16777216

/-- The three bytes in the packet are the sample without its lowest byte. -/
theorem l24_value (i32 : Int32) :
    signed24 (bigValue [l24U8 i32 3, l24U8 i32 2, l24U8 i32 1]) = i32.toInt / 256 := by
  have bound := i32.toUInt32.toNat_lt
  have value : i32.toInt = if i32.toUInt32.toNat < 2147483648 then (i32.toUInt32.toNat : ℤ)
      else i32.toUInt32.toNat - 4294967296 := MachineInt.to_int32_value i32.toUInt32
  have stored : bigValue [l24U8 i32 3, l24U8 i32 2, l24U8 i32 1] = i32.toUInt32.toNat / 256 :=
    calc bigValue [l24U8 i32 3, l24U8 i32 2, l24U8 i32 1]
        = littleValue (littleBytes 3 (i32.toUInt32.toNat / 256)) := rfl
      _ = i32.toUInt32.toNat / 256 % 256 ^ 3 := little_value_bytes _ _
      _ = i32.toUInt32.toNat / 256 := Nat.mod_eq_of_lt (by omega)
  rw [signed24, stored, value]
  split_ifs <;> omega

/-- A sample in the packet is the value of the tone, to within one step of 24 bits. -/
theorem l24_close {tonef : ℚ} (float : binary32.round tonef = tonef)
    (low : -1 ≤ tonef) (high : tonef ≤ 1) :
    |((floatToI32 tonef).toInt / 256 : ℤ) - tonef * 8388608| ≤ 1 := by
  have close := abs_le.mp (float_to_i32_close float low high)
  have whole : 256 * ((floatToI32 tonef).toInt / 256) ≤ (floatToI32 tonef).toInt ∧
      (floatToI32 tonef).toInt ≤ 256 * ((floatToI32 tonef).toInt / 256) + 255 := by omega
  have below : 256 * (((floatToI32 tonef).toInt / 256 : ℤ) : ℚ) ≤ (floatToI32 tonef).toInt := by
    exact_mod_cast whole.1
  have above : ((floatToI32 tonef).toInt : ℚ) ≤
      256 * (((floatToI32 tonef).toInt / 256 : ℤ) : ℚ) + 255 := by
    exact_mod_cast whole.2
  rw [abs_le]
  constructor <;> linarith

/-! ## The tone in the pipeline -/

/-- Byte `index` of the tone, counted from the first payload on. -/
def toneByte (sinf : ℚ → ℚ) (audioSamplingRate : UInt32) (index : Nat) : UInt8 :=
  (toneFrame (generateToneData sinf (tonePeriod audioSamplingRate (index / 6)))).getD (index % 6) 0

def tonePayload (sinf : ℚ → ℚ) (audioSamplingRate : UInt32) (number : Nat) : Bytes :=
  (List.range tonePayloadSize).map fun index =>
    toneByte sinf audioSamplingRate (tonePayloadSize * number + index)

/-- Both hosts, with the `tone_period` of the audio thread of `tonegen`. -/
structure ToneState where
  system : SystemState
  tonePeriod : ℚ

def toneStart (tonegenQueue rtpdumpQueue : AoipQueue) (audio : AudioCtx) : ToneState where
  system := systemStart tonegenQueue rtpdumpQueue audio
  tonePeriod := 0

def storedByte (sinf : ℚ → ℚ) (period : ℚ) : ProducerPc → UInt8
  | .filling _ written =>
      (toneFrame (generateToneData sinf period)).getD (written.length % 6) 0
  | _ => 0

/-- `tone_period` moves behind the sixth byte of a frame. -/
def periodAfter (delta period : ℚ) : ProducerPc → ℚ
  | .filling _ written =>
      if written.length < tonePayloadSize ∧ written.length % 6 = 5 then nextPeriod delta period
      else period
  | _ => period

/-- The byte that a schedule names is replaced by that of the tone. -/
def toneStep (sinf : ℚ → ℚ) (audioSamplingRate : UInt32) (accepts : Nat → Option Nat)
    (packetLength : UInt16) (s : ToneState) : SystemAction → ToneState
  | .tonegen (.producer reading _) =>
      let producer := s.system.tonegen.producer
      let byte := storedByte sinf s.tonePeriod producer
      { system := systemStep accepts packetLength s.system (.tonegen (.producer reading byte))
        tonePeriod := periodAfter (toneDelta audioSamplingRate) s.tonePeriod producer }
  | action => { s with system := systemStep accepts packetLength s.system action }

def toneRun (sinf : ℚ → ℚ) (audioSamplingRate : UInt32) (accepts : Nat → Option Nat)
    (packetLength : UInt16) (s : ToneState) (schedule : List SystemAction) : ToneState :=
  schedule.foldl (toneStep sinf audioSamplingRate accepts packetLength) s

def underWay : ProducerPc → Bytes
  | .filling _ written => written
  | .counted written => written
  | _ => []

/-- All bytes so far are those of the tone, and `tone_period` belongs to the next. -/
structure Sounding (sinf : ℚ → ℚ) (audioSamplingRate : UInt32) (produced : List Bytes)
    (producer : ProducerPc) (period : ℚ) : Prop where
  payloads : produced = (List.range produced.length).map (tonePayload sinf audioSamplingRate)
  bytes : underWay producer = (List.range (underWay producer).length).map fun index =>
    toneByte sinf audioSamplingRate (tonePayloadSize * produced.length + index)
  short : (underWay producer).length ≤ tonePayloadSize
  whole : ∀ written, producer = .counted written → written.length = tonePayloadSize
  phase : period = tonePeriod audioSamplingRate
    ((tonePayloadSize * produced.length + (underWay producer).length) / 6)

section

variable {sinf : ℚ → ℚ} {audioSamplingRate : UInt32} {produced : List Bytes} {period : ℚ}

theorem sounding_moves {before after : ProducerPc}
    (sounding : Sounding sinf audioSamplingRate produced before period)
    (same : underWay after = underWay before)
    (whole : ∀ written, after = .counted written → written.length = tonePayloadSize) :
    Sounding sinf audioSamplingRate produced after period := by
  constructor
  · exact sounding.payloads
  · rw [same]
    exact sounding.bytes
  · rw [same]
    exact sounding.short
  · exact whole
  · rw [same]
    exact sounding.phase

theorem sounding_stores {slot : Nat} {written : Bytes}
    (sounding : Sounding sinf audioSamplingRate produced (.filling slot written) period)
    (room : written.length < tonePayloadSize) :
    Sounding sinf audioSamplingRate produced
      (.filling slot (written ++ [storedByte sinf period (.filling slot written)]))
      (periodAfter (toneDelta audioSamplingRate) period (.filling slot written)) := by
  have size : tonePayloadSize = 288 := rfl
  have bytes : written = (List.range written.length).map fun index =>
    toneByte sinf audioSamplingRate (tonePayloadSize * produced.length + index) := sounding.bytes
  have phase : period = tonePeriod audioSamplingRate
    ((tonePayloadSize * produced.length + written.length) / 6) := sounding.phase
  have start : tonePayloadSize * produced.length = 6 * (48 * produced.length) := by
    rw [size]
    omega
  have place : (tonePayloadSize * produced.length + written.length) % 6 = written.length % 6 := by
    omega
  have next : storedByte sinf period (.filling slot written) =
      toneByte sinf audioSamplingRate (tonePayloadSize * produced.length + written.length) := by
    rw [toneByte, ← phase, place, storedByte]
  have longer : (written ++ [storedByte sinf period (.filling slot written)]).length =
      written.length + 1 := by
    rw [List.length_append, List.length_singleton]
  constructor
  · exact sounding.payloads
  · change written ++ [_] = (List.range (written ++ [_]).length).map _
    rw [longer, List.range_succ, List.map_append, ← bytes, next, List.map_singleton]
  · change (written ++ [_]).length ≤ tonePayloadSize
    omega
  · intro other counted
    cases counted
  · change periodAfter _ _ _ = tonePeriod audioSamplingRate
      ((tonePayloadSize * produced.length + (written ++ [_]).length) / 6)
    rw [longer, periodAfter, phase]
    by_cases last : written.length % 6 = 5
    · have moves : (tonePayloadSize * produced.length + (written.length + 1)) / 6 =
          (tonePayloadSize * produced.length + written.length) / 6 + 1 := by omega
      rw [if_pos ⟨room, last⟩, moves, tonePeriod, tonePeriod, Function.iterate_succ_apply']
    · have stays : (tonePayloadSize * produced.length + (written.length + 1)) / 6 =
          (tonePayloadSize * produced.length + written.length) / 6 := by omega
      rw [if_neg (fun both => last both.2), stays]

theorem sounding_publishes {written : Bytes}
    (sounding : Sounding sinf audioSamplingRate produced (.counted written) period) :
    Sounding sinf audioSamplingRate (produced ++ [written]) .idle period := by
  have length := sounding.whole written rfl
  have bytes : written = (List.range written.length).map fun index =>
    toneByte sinf audioSamplingRate (tonePayloadSize * produced.length + index) := sounding.bytes
  have payload : written = tonePayload sinf audioSamplingRate produced.length := by
    rw [length] at bytes
    exact bytes
  have phase : period = tonePeriod audioSamplingRate
    ((tonePayloadSize * produced.length + written.length) / 6) := sounding.phase
  constructor
  · rw [List.length_append, List.length_singleton, List.range_succ, List.map_append,
      ← sounding.payloads, List.map_singleton, ← payload]
  · rfl
  · exact Nat.zero_le _
  · intro other counted
    cases counted
  · rw [phase, length, List.length_append, List.length_singleton, Nat.mul_succ]
    rfl

end

theorem producer_keeps_sounding {sinf : ℚ → ℚ} {audioSamplingRate : UInt32} {period : ℚ}
    {s : RecordState}
    (sounding : Sounding sinf audioSamplingRate s.produced s.producer period) (reading : NsTime) :
    let after := producerStep s reading (storedByte sinf period s.producer)
    Sounding sinf audioSamplingRate after.produced after.producer
      (periodAfter (toneDelta audioSamplingRate) period s.producer) := by
  unfold producerStep
  cases pc : s.producer with
  | idle =>
      rw [pc] at sounding
      dsimp only
      split_ifs
      · exact sounding_moves sounding rfl nofun
      · rw [pc]
        exact sounding
  | roomFound slot =>
      rw [pc] at sounding
      exact sounding_moves sounding rfl nofun
  | lenSet slot =>
      rw [pc] at sounding
      exact sounding_moves sounding rfl nofun
  | seqSet slot =>
      rw [pc] at sounding
      exact sounding_moves sounding rfl nofun
  | filling slot written =>
      rw [pc] at sounding
      dsimp only
      split_ifs with room
      · exact sounding_stores sounding room
      · have full : written.length = tonePayloadSize :=
          Nat.le_antisymm sounding.short (not_lt.mp room)
        rw [periodAfter, if_neg (fun both => room both.1)]
        exact sounding_moves sounding rfl (fun other counted => by cases counted; exact full)
  | counted written =>
      rw [pc] at sounding
      exact sounding_publishes sounding

theorem sender_step_keeps_producer (s : RecordState) (fresh : UInt32) (outcome : SendResult) :
    (senderStep s fresh outcome).producer = s.producer ∧
      (senderStep s fresh outcome).produced = s.produced := by
  unfold senderStep
  cases s.sender with
  | idle =>
      dsimp only
      split_ifs <;> exact ⟨rfl, rfl⟩
  | sequenced slot fresh => cases outcome <;> exact ⟨rfl, rfl⟩
  | _ => exact ⟨rfl, rfl⟩

section

variable {sinf : ℚ → ℚ} {audioSamplingRate : UInt32} {accepts : Nat → Option Nat}
  {packetLength : UInt16}

theorem step_keeps_sounding {s : ToneState}
    (sounding : Sounding sinf audioSamplingRate s.system.tonegen.produced
      s.system.tonegen.producer s.tonePeriod) (action : SystemAction) :
    let after := toneStep sinf audioSamplingRate accepts packetLength s action
    Sounding sinf audioSamplingRate after.system.tonegen.produced
      after.system.tonegen.producer after.tonePeriod := by
  cases action with
  | tonegen action =>
      cases action with
      | producer reading byte => exact producer_keeps_sounding sounding reading
      | sender fresh outcome =>
          obtain ⟨producer, produced⟩ :=
            sender_step_keeps_producer s.system.tonegen fresh outcome
          change Sounding sinf audioSamplingRate
            (senderStep s.system.tonegen fresh outcome).produced
            (senderStep s.system.tonegen fresh outcome).producer s.tonePeriod
          rw [producer, produced]
          exact sounding
  | receive index reading => exact sounding
  | dump outside => exact sounding

theorem start_sounding (tonegenQueue rtpdumpQueue : AoipQueue) (audio : AudioCtx) :
    let s := toneStart tonegenQueue rtpdumpQueue audio
    Sounding sinf audioSamplingRate s.system.tonegen.produced s.system.tonegen.producer
      s.tonePeriod where
  payloads := rfl
  bytes := rfl
  short := Nat.zero_le _
  whole := nofun
  phase := congrArg (tonePeriod audioSamplingRate) (by decide : 0 = (tonePayloadSize * 0 + 0) / 6)

theorem run_keeps_sounding (tonegenQueue rtpdumpQueue : AoipQueue) (audio : AudioCtx)
    (schedule : List SystemAction) :
    let s := toneRun sinf audioSamplingRate accepts packetLength
      (toneStart tonegenQueue rtpdumpQueue audio) schedule
    Sounding sinf audioSamplingRate s.system.tonegen.produced s.system.tonegen.producer
      s.tonePeriod := by
  induction schedule using List.reverseRecOn with
  | nil => exact start_sounding tonegenQueue rtpdumpQueue audio
  | append_singleton earlier action ih =>
      rw [toneRun, List.foldl_append, List.foldl_cons, List.foldl_nil]
      exact step_keeps_sounding ih action

end

/-- A run with the tone is a run with the bytes of the tone. -/
theorem tone_run_system (sinf : ℚ → ℚ) (audioSamplingRate : UInt32) (accepts : Nat → Option Nat)
    (packetLength : UInt16) (schedule : List SystemAction) (s : ToneState) :
    ∃ actions, (toneRun sinf audioSamplingRate accepts packetLength s schedule).system =
      systemRun accepts packetLength s.system actions := by
  induction schedule generalizing s with
  | nil => exact ⟨[], rfl⟩
  | cons action rest ih =>
      obtain ⟨actions, runs⟩ := ih (toneStep sinf audioSamplingRate accepts packetLength s action)
      cases action with
      | tonegen action =>
          cases action with
          | producer reading byte =>
              exact ⟨.tonegen (.producer reading
                (storedByte sinf s.tonePeriod s.system.tonegen.producer)) :: actions, runs⟩
          | sender fresh outcome => exact ⟨.tonegen (.sender fresh outcome) :: actions, runs⟩
      | receive index reading => exact ⟨.receive index reading :: actions, runs⟩
      | dump outside => exact ⟨.dump outside :: actions, runs⟩

theorem payloads_flatten (sinf : ℚ → ℚ) (audioSamplingRate : UInt32) (count : Nat) :
    ((List.range count).map (tonePayload sinf audioSamplingRate)).flatten =
      (List.range (tonePayloadSize * count)).map (toneByte sinf audioSamplingRate) := by
  induction count with
  | zero => rfl
  | succ count ih =>
      rw [List.range_succ, List.map_append, List.flatten_append, ih, Nat.mul_succ, List.range_add,
        List.map_append, List.map_map, List.map_singleton, List.flatten_singleton, tonePayload]
      rfl

/-- Whenever the threads run and however often the queue is full: the payloads that
have been published are the tone without a gap, and so are those of the datagrams that
have gone out. -/
theorem tone_is_continuous (sinf : ℚ → ℚ) (audioSamplingRate : UInt32)
    (accepts : Nat → Option Nat) (packetLength : UInt16) (tonegenQueue rtpdumpQueue : AoipQueue)
    (audio : AudioCtx) (schedule : List SystemAction) :
    let tonegen := (toneRun sinf audioSamplingRate accepts packetLength
      (toneStart tonegenQueue rtpdumpQueue audio) schedule).system.tonegen
    tonegen.produced.flatten = (List.range (tonePayloadSize * tonegen.produced.length)).map
        (toneByte sinf audioSamplingRate) ∧
      ∀ slots data time, tonegenPacketLength = some packetLength →
        aoipQueueInit slots data packetLength time = some tonegenQueue →
        (tonegen.sent.map (List.drop rtpHdrSize)).flatten =
          (List.range (tonePayloadSize * tonegen.sent.length)).map
            (toneByte sinf audioSamplingRate) := by
  intro tonegen
  have payloads : tonegen.produced =
      (List.range tonegen.produced.length).map (tonePayload sinf audioSamplingRate) :=
    (run_keeps_sounding tonegenQueue rtpdumpQueue audio schedule).payloads
  constructor
  · rw [← payloads_flatten, ← payloads]
  · intro slots data time configured created
    obtain ⟨actions, runs⟩ := tone_run_system sinf audioSamplingRate accepts packetLength schedule
      (toneStart tonegenQueue rtpdumpQueue audio)
    have reached : tonegen = (systemRun accepts packetLength
        (systemStart tonegenQueue rtpdumpQueue audio) actions).tonegen :=
      congrArg SystemState.tonegen runs
    obtain ⟨released, invariant⟩ := tonegen_reaches accepts configured rtpdumpQueue slots data time
      created audio actions
    rw [← reached] at invariant
    have front := sent_payloads invariant
    have count : tonegen.sent.length ≤ tonegen.produced.length := by
      simpa only [List.length_map] using front.length_le
    rw [List.prefix_iff_eq_take, List.length_map, payloads, ← List.map_take, List.take_range,
      Nat.min_eq_left count] at front
    rw [front, payloads_flatten]

/-! ## The tone in the file -/

/-- A frame of the file: both samples, lowest byte first, are a value of the tone to
within one step of 24 bits. -/
structure Plays (tonef : ℚ) (frame : Bytes) : Prop where
  left : |(signed24 (littleValue (frame.take 3)) : ℚ) - tonef * 8388608| ≤ 1
  right : |(signed24 (littleValue (frame.drop 3)) : ℚ) - tonef * 8388608| ≤ 1

theorem tone_byte_place (sinf : ℚ → ℚ) (audioSamplingRate : UInt32) (number : Nat)
    {frame index : Nat} (inside : index < 6) :
    toneByte sinf audioSamplingRate (tonePayloadSize * number + (6 * frame + index)) =
      (toneFrame (generateToneData sinf
        (tonePeriod audioSamplingRate (48 * number + frame)))).getD index 0 := by
  have start : tonePayloadSize * number = 6 * (48 * number) := by
    rw [tonePayloadSize]
    omega
  have quotient : (tonePayloadSize * number + (6 * frame + index)) / 6 = 48 * number + frame := by
    omega
  have rest : (tonePayloadSize * number + (6 * frame + index)) % 6 = index := by omega
  rw [toneByte, quotient, rest]

theorem tone_payload_sample (sinf : ℚ → ℚ) (audioSamplingRate : UInt32) (number : Nat)
    {frame start : Nat} (inside : frame < 48) (channel : start = 0 ∨ start = 3) :
    let tonei := floatToI32 (generateToneData sinf
      (tonePeriod audioSamplingRate (48 * number + frame)))
    slice (tonePayload sinf audioSamplingRate number) (6 * frame + start) 3 =
      [l24U8 tonei 3, l24U8 tonei 2, l24U8 tonei 1] := by
  have room : 6 * frame + start + 3 ≤ tonePayloadSize := by
    rw [tonePayloadSize]
    omega
  have places : List.range 3 = [0, 1, 2] := rfl
  rw [tonePayload, slice_tabulated _ room, places]
  simp only [List.map_cons, List.map_nil, Nat.add_assoc]
  rw [tone_byte_place _ _ _ (by omega), tone_byte_place _ _ _ (by omega),
    tone_byte_place _ _ _ (by omega)]
  rcases channel with rfl | rfl <;> rfl

theorem tone_frame_plays {sinf : ℚ → ℚ} (sine : Sine sinf) (audioSamplingRate : UInt32)
    (number : Nat) {frame : Nat} (inside : frame < 48) :
    Plays (generateToneData sinf (tonePeriod audioSamplingRate (48 * number + frame)))
      (swappedFrame (tonePayload sinf audioSamplingRate number) frame) := by
  have first := tone_payload_sample sinf audioSamplingRate number inside (.inl rfl)
  have second := tone_payload_sample sinf audioSamplingRate number inside (.inr rfl)
  have close := l24_close (sine.float _) (sine.low _) (sine.high
    (binary32.round (binary64.round
      (twoPi * tonePeriod audioSamplingRate (48 * number + frame)))))
  rw [← l24_value] at close
  rw [swappedFrame, ← Nat.add_zero (6 * frame), first, Nat.add_zero, second]
  exact ⟨close, close⟩

/-- Payload `number` of the tone shows in the file as 48 frames, of which the first
46 play what the payload has from its third frame on. -/
structure ToneShown (sinf : ℚ → ℚ) (audioSamplingRate : UInt32) (number : Nat)
    (frames : List Bytes) : Prop where
  count : frames.length = 48
  plays : ∀ index < 46, ∃ frame, frames[index]? = some frame ∧
    Plays (generateToneData sinf (tonePeriod audioSamplingRate (48 * number + (index + 2)))) frame

theorem tone_shown {sinf : ℚ → ℚ} (sine : Sine sinf) {audioSamplingRate : UInt32} {number : Nat}
    {frames : List Bytes} (shown : ShownAs (tonePayload sinf audioSamplingRate number) frames) :
    ToneShown sinf audioSamplingRate number frames where
  count := shown.count
  plays index below := ⟨_, shown.shifted index below,
    tone_frame_plays sine audioSamplingRate number (by omega)⟩

/-- Whatever the network and the schedule do, the file plays the tone: each datagram that
has been read is one of those delivered, and shows as a group of 48 frames that plays 46
consecutive frames of the tone from the place of its payload on, to within one step of 24
bits and alike on both channels. If the network keeps the order, so do the groups. -/
theorem file_plays_tone {sinf : ℚ → ℚ} (sine : Sine sinf) {accepts : Nat → Option Nat}
    (complete : WritesAll accepts) (packetLength : UInt16)
    (configured : tonegenPacketLength = some packetLength)
    (tonegenQueue rtpdumpQueue : AoipQueue) (slots : Bool) (data : Nat → Bool)
    (time : Nat → UInt32)
    (tonegenCreated : aoipQueueInit slots data packetLength time = some tonegenQueue)
    (otherSlots : Bool) (otherData : Nat → Bool) (otherTime : Nat → UInt32)
    (rtpdumpCreated : aoipQueueInit otherSlots otherData packetLength otherTime = some rtpdumpQueue)
    (audio : AudioCtx) (schedule : List SystemAction) :
    let s := (toneRun sinf 48000 accepts packetLength
      (toneStart tonegenQueue rtpdumpQueue audio) schedule).system
    ∃ numbers frames, s.rtpdump.before = audio.extended frames.flatten ∧
      s.rtpdump.playback.seen.map Packet.bytes =
        numbers.map (fun number => s.tonegen.sent.getD number []) ∧
      numbers.Sublist s.delivered ∧
      (∀ number ∈ numbers, number < s.tonegen.produced.length) ∧
      List.Forall₂ (ToneShown sinf 48000) numbers frames ∧
      (s.delivered.Pairwise (· < ·) → numbers.Pairwise (· < ·)) := by
  intro s
  have payloads : s.tonegen.produced =
      (List.range s.tonegen.produced.length).map (tonePayload sinf 48000) :=
    (run_keeps_sounding tonegenQueue rtpdumpQueue audio schedule).payloads
  obtain ⟨actions, runs⟩ := tone_run_system sinf 48000 accepts packetLength schedule
    (toneStart tonegenQueue rtpdumpQueue audio)
  obtain ⟨⟨released, sender⟩, filed, arrivals⟩ := system_reaches complete configured slots data time
    tonegenCreated otherSlots otherData otherTime rtpdumpCreated audio actions
  have reached : s = systemRun accepts packetLength
      (systemStart tonegenQueue rtpdumpQueue audio) actions := runs
  rw [← reached] at sender filed arrivals
  obtain ⟨numbers, frames, extended, seen, listed, known, shown⟩ :=
    shown_numbers sender filed arrivals
  refine ⟨numbers, frames, extended, seen, listed, known, shown.imp ?_, fun inOrder =>
    inOrder.sublist listed⟩
  rintro number group ⟨payload, produced, shows⟩
  rw [payloads, List.getElem?_map, Option.map_eq_some_iff] at produced
  obtain ⟨place, ranged, rfl⟩ := produced
  obtain ⟨below, rfl⟩ := List.getElem?_eq_some_iff.mp ranged
  rw [List.getElem_range] at shows
  exact tone_shown sine shows

/-! ## A run with the sine -/

/-- The sine by twenty terms of its series, as a `float`. -/
def sampleSinf (x : ℚ) : ℚ := max (-1) (min 1 (binary32.round (sineSum x 20)))

theorem sample_sine : Sine sampleSinf where
  float x := by
    have ends : binary32.round (-1) = -1 := by decide +kernel
    unfold sampleSinf
    rcases max_choice (-1) (min 1 (binary32.round (sineSum x 20))) with low | inside
    · rw [low, ends]
    · rw [inside]
      rcases min_choice 1 (binary32.round (sineSum x 20)) with high | between
      · rw [high, float_one]
      · rw [between, Format.round_round]
  low x := le_max_left _ _
  high x := max_le (by norm_num) (min_le_left _ _)

theorem clamp_closer {x y : ℝ} (low : -1 ≤ y) (high : y ≤ 1) :
    |max (-1) (min 1 x) - y| ≤ |x - y| := by
  calc |max (-1) (min 1 x) - y|
      = |max (-1) (min 1 x) - max (-1) (min 1 y)| := by rw [min_eq_right high, max_eq_right low]
    _ ≤ max |(-1 : ℝ) - -1| |min 1 x - min 1 y| := abs_max_sub_max_le_max _ _ _ _
    _ = |min 1 x - min 1 y| := by rw [sub_self, abs_zero, max_eq_right (abs_nonneg _)]
    _ ≤ max |(1 : ℝ) - 1| |x - y| := abs_min_sub_min_le_max _ _ _ _
    _ = |x - y| := by rw [sub_self, abs_zero, max_eq_right (abs_nonneg _)]

theorem series_close {x : ℚ} (near : |x| ≤ 7) :
    |(sineSum x 20 : ℝ) - Real.sin x| ≤ 1 / 33554432 := by
  have nearReal : |(x : ℝ)| ≤ 7 := by exact_mod_cast near
  have power : |(x : ℝ)| ^ (2 * 20) ≤ 7 ^ (2 * 20) := pow_le_pow_left₀ (abs_nonneg _) nearReal _
  have factorial : ((2 * 20).factorial : ℝ) = 815915283247897734345611269596115894272000000000 := by
    norm_num [Nat.factorial]
  refine (sine_sum_error x 20 (by norm_num; linarith)).trans ?_
  rw [factorial, div_mul_eq_mul_div, div_le_iff₀ (by norm_num)]
  norm_num at power ⊢
  linarith

theorem float_close {x : ℚ} (below : |x| < 2) :
    |((binary32.round x : ℚ) : ℝ) - x| ≤ 1 / 16777216 := by
  have error : |binary32.round x - x| ≤ 2 ^ ((1 : ℤ) - binary32.precision) / 2 :=
    Format.round_error_below (by rwa [zpow_one]) (by decide)
  have value : (2 : ℚ) ^ ((1 : ℤ) - binary32.precision) / 2 = 1 / 16777216 := by
    norm_num [binary32]
  rw [value, ← Rat.cast_le (K := ℝ)] at error
  push_cast at error
  exact error

/-- Over a whole cycle it is the sine, to within one step of 24 bits. -/
theorem sample_sinf_close {x : ℚ} (near : |x| ≤ 7) :
    |(sampleSinf x : ℝ) - Real.sin x| ≤ 1 / 8388608 := by
  have series := series_close near
  have bounded : |sineSum x 20| < 2 := by
    have sine := abs_le.mp (Real.abs_sin_le_one x)
    have sum := abs_le.mp series
    have real : |(sineSum x 20 : ℝ)| < 2 := by
      rw [abs_lt]
      constructor <;> linarith
    exact_mod_cast real
  have float := float_close bounded
  have clamp : (sampleSinf x : ℝ) = max (-1) (min 1 ((binary32.round (sineSum x 20) : ℚ) : ℝ)) := by
    rw [sampleSinf]
    push_cast
    rfl
  rw [clamp]
  refine (clamp_closer (Real.neg_one_le_sin _) (Real.sin_le_one _)).trans ?_
  refine (abs_sub_le _ (sineSum x 20 : ℝ) _).trans ?_
  linarith

/-- One packet of the tone from its generator to the file. -/
def sampleTone : SystemState :=
  (toneRun sampleSinf 48000 takesAll 300 (toneStart sampleQueue sampleQueue sampleAudio)
    sampleTransfer).system

theorem sample_tone_run :
    sampleTone.tonegen.sent.length = 1 ∧ sampleTone.delivered = [0] ∧
      sampleTone.rtpdump.rets = [0] ∧ sampleTone.rtpdump.playback.seen.length = 1 ∧
      sampleTone.rtpdump.before.fd.written.length = 48 ∧
      sampleTone.rtpdump.before.fd.written.take 2 =
        [[0x42, 0xB6, 0x0E, 0x42, 0xB6, 0x0E], [0xC5, 0x01, 0x16, 0xC5, 0x01, 0x16]] := by
  decide +kernel

theorem sample_tone_sent :
    sampleTone.tonegen.sent.length = 1 ∧
      (sampleTone.tonegen.sent.map (List.drop rtpHdrSize)).flatten =
        (List.range 288).map (toneByte sampleSinf 48000) := by
  have continuous := (tone_is_continuous sampleSinf 48000 takesAll 300 sampleQueue sampleQueue
    sampleAudio sampleTransfer).2 true (fun _ => true) (fun _ => 0) (by decide) sample_queue_created
  rw [← sampleTone, sample_tone_run.1] at continuous
  exact ⟨sample_tone_run.1, continuous⟩

theorem sample_file_plays :
    (∀ x : ℚ, |x| ≤ 7 → |(sampleSinf x : ℝ) - Real.sin x| ≤ 1 / 8388608) ∧
      sampleTone.delivered = [0] ∧ sampleTone.rtpdump.rets = [0] ∧
      sampleTone.rtpdump.before.fd.written.length = 48 ∧
      sampleTone.rtpdump.before.fd.written.take 2 =
        [[0x42, 0xB6, 0x0E, 0x42, 0xB6, 0x0E], [0xC5, 0x01, 0x16, 0xC5, 0x01, 0x16]] ∧
      ∃ frames, sampleTone.rtpdump.before = sampleAudio.extended frames.flatten ∧
        List.Forall₂ (ToneShown sampleSinf 48000) [0] frames := by
  obtain ⟨-, delivered, rets, single, written, begins⟩ := sample_tone_run
  have plays := file_plays_tone sample_sine takes_all 300 (by decide) sampleQueue sampleQueue true
    (fun _ => true) (fun _ => 0) sample_queue_created true (fun _ => true) (fun _ => 0)
    sample_queue_created sampleAudio sampleTransfer
  rw [← sampleTone] at plays
  obtain ⟨numbers, frames, extended, seen, listed, -, shown, -⟩ := plays
  have count : numbers.length = [0].length := by
    have lengths := congrArg List.length seen
    rw [List.length_map, List.length_map, single] at lengths
    exact lengths.symm
  rw [delivered] at listed
  obtain rfl := listed.eq_of_length count
  exact ⟨fun x => sample_sinf_close, delivered, rets, written, begins, frames, extended, shown⟩

end AoipCore.Tone
