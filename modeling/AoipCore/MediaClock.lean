import AoipCore.Library.BinaryFloat
import AoipCore.Library.Linearise
import AoipCore.Timestamp

/-!
# The media clock (`ns_to_rtp_tstamp`)

A time in nanoseconds is turned into a count of samples with three operations in
`double`, each of which rounds. The count is then cut to 32 bits. The cast to
`uint64_t` is defined only below 2^64.
-/

namespace AoipCore.MediaClock

open ByteBuffer BinaryFloat Linearise AoipCore.Host AoipCore.Timer AoipCore.Rtp AoipCore.Queue AoipCore.Record

set_option autoImplicit false

/-- `(ts / 1000000000.0) * rate`; every `uint32_t` is a `double`. -/
def samplePosition (ts : NsTime) (rate : UInt32) : ℚ :=
  binary64.round
    (binary64.round (binary64.round ts.toNat / 1000000000) * (rate.toNat : ℚ))

/-- None where the cast to `uint64_t` has no defined value. -/
def nsToRtpTstamp (ts : NsTime) (rate : UInt32) : Option UInt32 :=
  let floored := ⌊samplePosition ts rate⌋
  if floored < 18446744073709551616 then some (UInt32.ofNat (floored.toNat &&& 0xffffffff))
  else none

/-! ## How exact it is -/

/-- One rounding in `double` changes a value that is not tiny by at most this part
of it. -/
def unitRoundoff : ℚ := 1 / 9007199254740992

theorem double_between {x : ℚ} (normal : 1 / 10000000000 ≤ x) :
    x * (1 - unitRoundoff) ≤ binary64.round x ∧ binary64.round x ≤ x * (1 + unitRoundoff) := by
  have exponent : binary64.minExponent + binary64.precision - 1 = -1022 := rfl
  have large : (2 : ℚ) ^ (binary64.minExponent + binary64.precision - 1) ≤ x := by
    have tiny : (2 : ℚ) ^ (-1022 : ℤ) ≤ 2 ^ (-34 : ℤ) :=
      zpow_le_zpow_right₀ one_le_two (by decide)
    have small : (2 : ℚ) ^ (-34 : ℤ) ≤ 1 / 10000000000 := by norm_num
    rw [exponent]
    exact tiny.trans (small.trans normal)
  have error := Format.round_relative large
  have unit : (2 : ℚ) ^ (-(binary64.precision : ℤ)) = unitRoundoff := by
    norm_num [binary64, unitRoundoff]
  rw [unit, abs_le] at error
  constructor <;> linarith

/-- The value lies between two multiples of an exact one. -/
def Between (exact low high value : ℚ) : Prop := exact * low ≤ value ∧ value ≤ exact * high

theorem between_round {exact low high value : ℚ} (between : Between exact low high value)
    (normal : 1 / 10000000000 ≤ value) :
    Between exact (low * (1 - unitRoundoff)) (high * (1 + unitRoundoff))
      (binary64.round value) := by
  have unit : unitRoundoff = 1 / 9007199254740992 := rfl
  obtain ⟨below, above⟩ := double_between normal
  constructor
  · calc exact * (low * (1 - unitRoundoff)) = exact * low * (1 - unitRoundoff) := by ring
      _ ≤ value * (1 - unitRoundoff) :=
        mul_le_mul_of_nonneg_right between.1 (by rw [unit]; norm_num)
      _ ≤ binary64.round value := below
  · calc binary64.round value ≤ value * (1 + unitRoundoff) := above
      _ ≤ exact * high * (1 + unitRoundoff) :=
        mul_le_mul_of_nonneg_right between.2 (by rw [unit]; norm_num)
      _ = exact * (high * (1 + unitRoundoff)) := by ring

theorem between_mul {exact low high value : ℚ} (between : Between exact low high value)
    {factor : ℚ} (nonneg : 0 ≤ factor) : Between (exact * factor) low high (value * factor) := by
  constructor
  · calc exact * factor * low = exact * low * factor := by ring
      _ ≤ value * factor := mul_le_mul_of_nonneg_right between.1 nonneg
  · calc value * factor ≤ exact * high * factor := mul_le_mul_of_nonneg_right between.2 nonneg
      _ = exact * factor * high := by ring

def exactPosition (ts : NsTime) (rate : UInt32) : ℚ :=
  (ts.toNat : ℚ) * (1 / 1000000000) * rate.toNat

/-- Three roundings in a row. -/
theorem sample_position_between {ts : NsTime} {rate : UInt32} (running : 0 < ts.toNat)
    (sampling : 0 < rate.toNat) :
    Between (exactPosition ts rate)
      (1 * (1 - unitRoundoff) * (1 - unitRoundoff) * (1 - unitRoundoff))
      (1 * (1 + unitRoundoff) * (1 + unitRoundoff) * (1 + unitRoundoff))
      (samplePosition ts rate) := by
  have unit : unitRoundoff = 1 / 9007199254740992 := rfl
  have time : (1 : ℚ) ≤ ts.toNat := Nat.one_le_cast.mpr running
  have samples : (1 : ℚ) ≤ rate.toNat := Nat.one_le_cast.mpr sampling
  have exact : Between (ts.toNat : ℚ) 1 1 ts.toNat := ⟨by rw [mul_one], by rw [mul_one]⟩
  have first := between_round exact (by linarith)
  have scaled := between_mul first (by norm_num : (0 : ℚ) ≤ 1 / 1000000000)
  have scaledLarge : 1 / 2000000000 ≤ binary64.round ts.toNat * (1 / 1000000000) := by
    have below := first.1
    rw [unit] at below
    linarith
  have second := between_round scaled (by linarith)
  have secondLarge : 1 / 4000000000 ≤
      binary64.round (binary64.round ts.toNat * (1 / 1000000000)) := by
    have below := (double_between (by linarith : 1 / 10000000000 ≤
      binary64.round ts.toNat * (1 / 1000000000))).1
    rw [unit] at below
    linarith
  have product := between_mul second (zero_le_one.trans samples)
  have productLarge : 1 / 4000000000 ≤
      binary64.round (binary64.round ts.toNat * (1 / 1000000000)) * (rate.toNat : ℚ) := by
    nlinarith
  have third := between_round product (by linarith)
  rw [samplePosition, div_eq_mul_one_div]
  exact third

theorem sample_position_mono {earlier ts : NsTime} (rate : UInt32) (order : earlier ≤ ts) :
    samplePosition earlier rate ≤ samplePosition ts rate := by
  have times : (earlier.toNat : ℚ) ≤ ts.toNat := Nat.cast_le.mpr (UInt64.le_iff_toNat_le.mp order)
  have first : binary64.round earlier.toNat ≤ binary64.round ts.toNat :=
    Format.round_mono (Nat.cast_nonneg _) times
  have start : 0 ≤ binary64.round (earlier.toNat : ℚ) / 1000000000 :=
    div_nonneg (Format.round_nonneg (Nat.cast_nonneg _)) (by norm_num)
  have second : binary64.round (binary64.round (earlier.toNat : ℚ) / 1000000000) ≤
      binary64.round (binary64.round (ts.toNat : ℚ) / 1000000000) :=
    Format.round_mono start (div_le_div_of_nonneg_right first (by norm_num))
  apply Format.round_mono
  · exact mul_nonneg (Format.round_nonneg start) (Nat.cast_nonneg _)
  · exact mul_le_mul_of_nonneg_right second (Nat.cast_nonneg _)

theorem sample_position_zero (ts : NsTime) (rate : UInt32) (idle : ts.toNat = 0 ∨ rate.toNat = 0) :
    samplePosition ts rate = 0 ∧ exactPosition ts rate = 0 := by
  unfold samplePosition exactPosition
  rcases idle with zero | zero
  · rw [zero, Nat.cast_zero, Format.round_zero, zero_div, Format.round_zero, zero_mul,
      Format.round_zero, zero_mul, zero_mul]
    exact ⟨rfl, rfl⟩
  · rw [zero, Nat.cast_zero, mul_zero, Format.round_zero, mul_zero]
    exact ⟨rfl, rfl⟩

/-- As long as the position stays below 2^50 samples it is off by at most half a
sample. -/
theorem sample_position_close (ts : NsTime) (rate : UInt32)
    (range : ts.toNat * rate.toNat ≤ 1125899906842624 * 1000000000) :
    |samplePosition ts rate - exactPosition ts rate| ≤ 1 / 2 := by
  by_cases idle : ts.toNat = 0 ∨ rate.toNat = 0
  · obtain ⟨position, exact⟩ := sample_position_zero ts rate idle
    rw [position, exact]
    norm_num
  · have running : 0 < ts.toNat := by omega
    have sampling : 0 < rate.toNat := by omega
    obtain ⟨below, above⟩ := sample_position_between running sampling
    have unit : unitRoundoff = 1 / 9007199254740992 := rfl
    have bounded : exactPosition ts rate ≤ 1125899906842624 := by
      have product : (ts.toNat : ℚ) * rate.toNat ≤ 1125899906842624 * 1000000000 := by
        exact_mod_cast range
      unfold exactPosition
      linarith
    have nonneg : 0 ≤ exactPosition ts rate := by
      unfold exactPosition
      positivity
    -- the three factors together are within four roundoffs of one
    have low : 1 - 4 * unitRoundoff ≤
        1 * (1 - unitRoundoff) * (1 - unitRoundoff) * (1 - unitRoundoff) := by
      rw [unit]
      norm_num
    have high : 1 * (1 + unitRoundoff) * (1 + unitRoundoff) * (1 + unitRoundoff) ≤
        1 + 4 * unitRoundoff := by
      rw [unit]
      norm_num
    have lower := (mul_le_mul_of_nonneg_left low nonneg).trans below
    have upper := above.trans (mul_le_mul_of_nonneg_left high nonneg)
    rw [unit] at lower upper
    rw [abs_le]
    constructor <;> linarith

/-- The count is exact up to one sample, for every time and rate that stay below
2^50 samples; it never runs backwards, and the cast is defined. -/
theorem media_clock_accurate (ts : NsTime) (rate : UInt32)
    (range : ts.toNat * rate.toNat ≤ 1125899906842624 * 1000000000) :
    nsToRtpTstamp ts rate = some (UInt32.ofNat ⌊samplePosition ts rate⌋.toNat) ∧
      |⌊samplePosition ts rate⌋ - (ts.toNat * rate.toNat / 1000000000 : Nat)| ≤ 1 ∧
      ∀ earlier ≤ ts, ⌊samplePosition earlier rate⌋ ≤ ⌊samplePosition ts rate⌋ := by
  have close := sample_position_close ts rate range
  rw [abs_le] at close
  have exactFloor : ⌊exactPosition ts rate⌋ = (ts.toNat * rate.toNat / 1000000000 : Nat) := by
    have quotient : exactPosition ts rate =
        ((ts.toNat * rate.toNat : Nat) : ℚ) / ((1000000000 : Nat) : ℚ) := by
      unfold exactPosition
      push_cast
      ring
    rw [quotient]
    exact Rat.floor_natCast_div_natCast _ _
  have whole : |⌊samplePosition ts rate⌋ - ⌊exactPosition ts rate⌋| ≤ 1 := by
    have floor := Int.floor_le (samplePosition ts rate)
    have next := Int.lt_floor_add_one (samplePosition ts rate)
    have exactlyFloor := Int.floor_le (exactPosition ts rate)
    have exactlyNext := Int.lt_floor_add_one (exactPosition ts rate)
    have low : (⌊exactPosition ts rate⌋ : ℚ) < (⌊samplePosition ts rate⌋ + 2 : ℤ) := by
      push_cast
      linarith
    have high : (⌊samplePosition ts rate⌋ : ℚ) < (⌊exactPosition ts rate⌋ + 2 : ℤ) := by
      push_cast
      linarith
    have lowInt := Int.cast_lt.mp low
    have highInt := Int.cast_lt.mp high
    rw [abs_le]
    constructor <;> omega
  rw [exactFloor] at whole
  refine ⟨?_, whole, ?_⟩
  · have defined : ⌊samplePosition ts rate⌋ < 18446744073709551616 := by
      rw [abs_le] at whole
      omega
    have mask : (0xffffffff : Nat) = 2 ^ 32 - 1 := rfl
    rw [nsToRtpTstamp, if_pos defined, mask, Nat.and_two_pow_sub_one_eq_mod, UInt32.ofNat_mod_size]
  · intro earlier order
    exact Int.floor_mono (sample_position_mono rate order)

/-- A second and a half at 48 kHz. -/
theorem sample_media_clock :
    nsToRtpTstamp 1500000000 48000 = some 72000 ∧
      |⌊samplePosition 1500000000 48000⌋ -
        ((1500000000 : NsTime).toNat * (48000 : UInt32).toNat / 1000000000 : Nat)| ≤ 1 :=
  ⟨by decide +kernel, (media_clock_accurate 1500000000 48000 (by decide)).2.1⟩

/-! ## How often it is read

The sender computes a timestamp for every attempt, also for one that `sendto`
turns down with `EAGAIN`, but takes it from the clock only while `tstamp` is zero. -/

/-- An attempt, with what the clock gives for it. -/
def attemptEvent (s : RecordState) : RecordAction → Option UInt32
  | .producer _ _ => none
  | .sender fresh _ =>
      match s.sender with
      | .found _ => some fresh
      | _ => none

def attempts (start : RecordState) (schedule : List RecordAction) : List UInt32 :=
  events recordStep attemptEvent start schedule

/-- Only an attempt changes `tstamp`. -/
theorem attempts_linearise :
    Linearises recordStep attemptEvent (fun tstamp fresh => some (nextTstamp tstamp fresh))
      (fun s tstamp => s.tstamp = tstamp) := by
  constructor
  · intro s tstamp action same silent
    subst same
    cases action with
    | producer reading byte =>
        unfold recordStep producerStep
        cases s.producer with
        | idle =>
            dsimp only
            split_ifs <;> rfl
        | filling slot written =>
            dsimp only
            split_ifs <;> rfl
        | _ => rfl
    | sender fresh outcome =>
        unfold attemptEvent at silent
        unfold recordStep senderStep
        cases pc : s.sender with
        | found slot => simp [pc] at silent
        | idle =>
            dsimp only
            split_ifs <;> rfl
        | sequenced slot fresh => cases outcome <;> rfl
        | _ => rfl
  · intro s tstamp action happened same visible
    subst same
    cases action with
    | producer reading byte => cases visible
    | sender fresh outcome =>
        unfold attemptEvent at visible
        cases pc : s.sender with
        | found slot =>
            rw [pc] at visible
            obtain rfl := Option.some.inj visible
            refine ⟨_, rfl, ?_⟩
            unfold recordStep senderStep
            rw [pc]
        | idle => simp [pc] at visible
        | stamped slot fresh => simp [pc] at visible
        | sequenced slot fresh => simp [pc] at visible
        | delivered => simp [pc] at visible
        | stopped => simp [pc] at visible

theorem follow_fold (fresh : List UInt32) (tstamp : UInt32) :
    follow (fun tstamp fresh => some (nextTstamp tstamp fresh)) tstamp fresh =
      some (fresh.foldl nextTstamp tstamp) := by
  induction fresh generalizing tstamp with
  | nil => rfl
  | cons first rest ih => exact ih (nextTstamp tstamp first)

/-- What the slot at `tail` shows from the attempt on. -/
def Stamped (q : AoipQueue) (tstamp : UInt32) : SenderPc → Prop
  | .stamped _ _ => rtpTimestamp (q.slotAt q.tail.toNat).data = tstamp
  | .sequenced _ _ => rtpTimestamp (q.slotAt q.tail.toNat).data = tstamp
  | _ => True

theorem producer_keeps_stamp {s : RecordState} {released : Nat}
    (invariant : RecordInvariant s released) (stamped : Stamped s.queue s.tstamp s.sender)
    (reading : NsTime) (byte : UInt8) :
    Stamped (producerStep s reading byte).queue (producerStep s reading byte).tstamp
      (producerStep s reading byte).sender := by
  obtain ⟨-, -, tstamp, sender, tail⟩ := producer_step_frame invariant reading byte
  have knows := invariant.sender
  rw [tstamp, sender]
  cases pc : s.sender with
  | stamped slot fresh =>
      rw [pc] at stamped knows
      rw [Stamped, tail knows.2]
      exact stamped
  | sequenced slot fresh =>
      rw [pc] at stamped knows
      rw [Stamped, tail knows.2.1]
      exact stamped
  | _ => trivial

theorem sender_keeps_stamp {s : RecordState} {released : Nat}
    (invariant : RecordInvariant s released) (stamped : Stamped s.queue s.tstamp s.sender)
    (fresh : UInt32) (outcome : SendResult) :
    Stamped (senderStep s fresh outcome).queue (senderStep s fresh outcome).tstamp
      (senderStep s fresh outcome).sender := by
  have knows := invariant.sender
  unfold senderStep
  cases pc : s.sender with
  | idle =>
      dsimp only
      split_ifs
      · trivial
      · rw [pc]
        trivial
  | found slot =>
      rw [pc] at knows
      obtain ⟨rfl, -⟩ := knows
      have room : 8 ≤ (s.queue.slotAt s.queue.tail.toNat).data.length := by
        rw [slot_size invariant]
        decide
      dsimp only
      rw [Stamped, AoipQueue.patch, tail_slot_written]
      exact put_timestamp_timestamp _ _ room
  | stamped slot fresh =>
      rw [pc] at knows stamped
      obtain ⟨rfl, -⟩ := knows
      dsimp only
      rw [Stamped, AoipQueue.patch, tail_slot_written]
      exact (put_sequence_timestamp _ _).trans stamped
  | sequenced slot fresh => cases outcome <;> trivial
  | delivered => trivial
  | stopped =>
      rw [pc]
      trivial

theorem run_keeps_stamp {queue : AoipQueue} (start : RecordInvariant (recordStart queue) 0)
    (schedule : List RecordAction) :
    (∃ released, RecordInvariant (recordRun (recordStart queue) schedule) released) ∧
      Stamped (recordRun (recordStart queue) schedule).queue
        (recordRun (recordStart queue) schedule).tstamp
        (recordRun (recordStart queue) schedule).sender := by
  unfold recordRun
  apply List.foldlRecOn (motive := fun s => (∃ released, RecordInvariant s released) ∧
    Stamped s.queue s.tstamp s.sender) schedule _ ⟨⟨0, start⟩, trivial⟩
  intro s kept action _
  obtain ⟨⟨released, invariant⟩, stamped⟩ := kept
  cases action with
  | producer reading byte =>
      exact ⟨⟨released, producer_step_invariant invariant reading byte⟩,
        producer_keeps_stamp invariant stamped reading byte⟩
  | sender fresh outcome =>
      exact ⟨sender_step_invariant invariant fresh outcome,
        sender_keeps_stamp invariant stamped fresh outcome⟩

theorem sequenced_sends {s : RecordState} {slot : Nat} {fresh : UInt32}
    (ready : s.sender = .sequenced slot fresh) (later : UInt32) :
    (senderStep s later .sent).sent =
      s.sent ++ [(s.queue.slotAt slot).data.take (s.queue.slotAt slot).len.toNat] := by
  unfold senderStep
  rw [ready]

/-- If the first timestamp is no multiple of 16, the clock is never read again: in
every run, whatever `sendto` reports, the datagram that the attempt after
`further` others sends shows the first timestamp advanced by 48 for each attempt,
cut to 16 bits. -/
theorem clock_is_read_once (slots : Bool) (data : Nat → Bool) (packetLength : UInt16)
    (time : Nat → UInt32) (queue : AoipQueue)
    (configured : tonegenPacketLength = some packetLength)
    (created : aoipQueueInit slots data packetLength time = some queue)
    (schedule : List RecordAction) (first another : UInt32) (further : List UInt32)
    (attempted : attempts (recordStart queue) schedule = first :: another :: further)
    (uneven : ¬16 ∣ first.toNat) (slot : Nat) (fresh later : UInt32)
    (ready : (recordRun (recordStart queue) schedule).sender = .sequenced slot fresh) :
    ∃ datagram, (senderStep (recordRun (recordStart queue) schedule) later .sent).sent =
        (recordRun (recordStart queue) schedule).sent ++ [datagram] ∧
      (rtpTimestamp datagram).toNat = (first.toNat + 48 * (further.length + 1)) % 65536 := by
  have start := record_start_invariant slots data packetLength time queue configured created
  obtain ⟨⟨released, invariant⟩, stamped⟩ := run_keeps_stamp start schedule
  obtain ⟨tstamp, followed, same⟩ :=
    run_linearises attempts_linearise schedule (recordStart queue) 0 rfl
  have folded : (recordRun (recordStart queue) schedule).tstamp =
      (first :: another :: further).foldl nextTstamp 0 := by
    unfold attempts at attempted
    rw [attempted, follow_fold, Option.some.injEq] at followed
    rw [followed]
    exact same
  have initial : nextTstamp 0 first = first := by
    rw [nextTstamp, if_neg (fun counting => counting rfl)]
  have knows := invariant.sender
  rw [ready] at stamped knows
  obtain ⟨rfl, waiting, -⟩ := knows
  obtain ⟨payload, -, item⟩ := oldest_item invariant waiting
  have whole := item_sent_whole (slot_size invariant _) item
  refine ⟨_, sequenced_sends ready later, ?_⟩
  rw [whole, stamped, folded, List.foldl_cons, initial]
  exact Timestamp.counter_advances first uneven another further

/-- A packet whose first attempt meets `EAGAIN`, up to the second `sendto`. -/
def sampleTurnedDown : List RecordAction :=
  samplePacket ++ List.replicate 4 (.sender 7 .again) ++ List.replicate 3 (.sender 9 .sent)

theorem sample_clock_is_read_once :
    ∃ datagram, (senderStep (recordRun (recordStart sampleQueue) sampleTurnedDown) 0 .sent).sent =
        (recordRun (recordStart sampleQueue) sampleTurnedDown).sent ++ [datagram] ∧
      (rtpTimestamp datagram).toNat = 55 := by
  have attempted : attempts (recordStart sampleQueue) sampleTurnedDown = [7, 9] := by
    decide +kernel
  have ready : (recordRun (recordStart sampleQueue) sampleTurnedDown).sender = .sequenced 0 9 := by
    decide +kernel
  exact clock_is_read_once true (fun _ => true) 300 (fun _ => 0) sampleQueue (by decide)
    sample_queue_created sampleTurnedDown 7 9 [] attempted (by decide) 0 9 0 ready

end AoipCore.MediaClock
