import AoipCore.Library.MachineInt
import AoipCore.Ptp.Exchange

/-!
# What a measurement computes

`ptp_mean_path_delay`, `ptp_offset` and `ptp_time` mix unsigned readings with
signed words. `TimesBelow` is the range in which none of their signed operations
wraps; `mean_path_delay_exact` and `offset_exact` give the integers they compute
there. Decoded timestamps are always in that range.
-/

namespace AoipCore.Ptp

open ByteBuffer MachineInt AoipCore.Host AoipCore.Timer

set_option autoImplicit false

/-- All four times of an exchange are below 2^62. -/
structure TimesBelow (sync : PtpcSyncCtx) : Prop where
  t1 : sync.t1.toNat < 4611686018427387904
  t2 : sync.t2.toNat < 4611686018427387904
  t3 : sync.t3.toNat < 4611686018427387904
  t4 : sync.t4.toNat < 4611686018427387904

/-- `t2 - t3 + t4 - t1` as an integer. -/
def roundTrip (sync : PtpcSyncCtx) : Int :=
  (sync.t2.toNat : Int) - sync.t3.toNat + (sync.t4.toNat - sync.t1.toNat)

/-- No signed operation of `ptp_mean_path_delay` leaves the range of `int64_t`:
the casts keep their values and each result is the integer one. -/
structure SignedExact (sync : PtpcSyncCtx) : Prop where
  t1 : sync.t1.toInt64.toInt = sync.t1.toNat
  t2 : sync.t2.toInt64.toInt = sync.t2.toNat
  t3 : sync.t3.toInt64.toInt = sync.t3.toNat
  t4 : sync.t4.toInt64.toInt = sync.t4.toNat
  d1 : (sync.t2.toInt64 - sync.t3.toInt64).toInt = (sync.t2.toNat : Int) - sync.t3.toNat
  d2 : (sync.t4.toInt64 - sync.t1.toInt64).toInt = (sync.t4.toNat : Int) - sync.t1.toNat
  sum : (sync.t2.toInt64 - sync.t3.toInt64 + (sync.t4.toInt64 - sync.t1.toInt64)).toInt =
    roundTrip sync

theorem signed_exact {sync : PtpcSyncCtx} (below : TimesBelow sync) : SignedExact sync := by
  obtain ⟨b1, b2, b3, b4⟩ := below
  have t1 : sync.t1.toInt64.toInt = sync.t1.toNat := to_int64_small (by omega)
  have t2 : sync.t2.toInt64.toInt = sync.t2.toNat := to_int64_small (by omega)
  have t3 : sync.t3.toInt64.toInt = sync.t3.toNat := to_int64_small (by omega)
  have t4 : sync.t4.toInt64.toInt = sync.t4.toNat := to_int64_small (by omega)
  have d1 : (sync.t2.toInt64 - sync.t3.toInt64).toInt = (sync.t2.toNat : Int) - sync.t3.toNat := by
    rw [int64_sub_exact] <;> rw [t2, t3]
    constructor <;> omega
  have d2 : (sync.t4.toInt64 - sync.t1.toInt64).toInt = (sync.t4.toNat : Int) - sync.t1.toNat := by
    rw [int64_sub_exact] <;> rw [t4, t1]
    constructor <;> omega
  refine ⟨t1, t2, t3, t4, d1, d2, ?_⟩
  rw [int64_add_exact] <;> rw [d1, d2]
  · rfl
  · constructor <;> omega

theorem mean_path_delay_exact {sync : PtpcSyncCtx} (below : TimesBelow sync) :
    (ptpMeanPathDelay sync).toInt = (roundTrip sync).tdiv 2 := by
  rw [ptpMeanPathDelay, int64_half_exact, (signed_exact below).sum]

theorem offset_exact {ctx : PtpcCtx} {sync : PtpcSyncCtx} (below : TimesBelow sync)
    (held : ctx.meanPathDelay = ptpMeanPathDelay sync) :
    (ptpOffset ctx sync).toInt =
      (sync.t2.toNat : Int) - sync.t1.toNat - (roundTrip sync).tdiv 2 := by
  have signed := signed_exact below
  have delay := mean_path_delay_exact below
  have half := half_toward_zero (roundTrip sync)
  obtain ⟨b1, b2, b3, b4⟩ := below
  have difference : (sync.t2.toInt64 - sync.t1.toInt64).toInt =
      (sync.t2.toNat : Int) - sync.t1.toNat := by
    rw [int64_sub_exact] <;> rw [signed.t2, signed.t1]
    constructor <;> omega
  have inside : InInt64 ((sync.t2.toNat : Int) - sync.t1.toNat - (roundTrip sync).tdiv 2) := by
    unfold roundTrip at half ⊢
    rw [half]
    split_ifs <;> constructor <;> omega
  rw [ptpOffset, held, UInt64.toInt64_sub, UInt64.toInt64_sub, Int64.toInt64_toUInt64,
    int64_sub_exact] <;> rw [difference, delay]
  exact inside

/-! ## Recovering the master clock -/

def ceilHalf (value : Int) : Int := -(-value / 2)

/-- The clock is recovered up to half the difference of the two delays:
`theta` is how far the local clock is ahead of the master, `forward` and
`backward` are the delays of the Sync and of the Delay_Req. -/
theorem clock_recovered (theta forward backward : Int) (ctx : PtpcCtx) (sync : PtpcSyncCtx)
    (forwardDelay : 0 ≤ forward) (backwardDelay : 0 ≤ backward) (below : TimesBelow sync)
    (received : (sync.t2.toNat : Int) = sync.t1.toNat + forward + theta)
    (answered : (sync.t4.toNat : Int) = sync.t3.toNat - theta + backward)
    (held : ctx.meanPathDelay = ptpMeanPathDelay sync) :
    (ptpMeanPathDelay sync).toInt = (forward + backward) / 2 ∧
      (ptpOffset ctx sync).toInt = theta + ceilHalf (forward - backward) ∧
      (∀ ts : NsTime,
        0 ≤ (ts.toNat : Int) - theta → (ts.toNat : Int) - theta < 18446744073709551616 →
        0 ≤ (ts.toNat : Int) - theta - ceilHalf (forward - backward) →
        (ts.toNat : Int) - theta - ceilHalf (forward - backward) < 18446744073709551616 →
        ((ptpTime ts (ptpOffset ctx sync)).toNat : Int) =
          ts.toNat - theta - ceilHalf (forward - backward)) ∧
      (forward = backward → ∀ ts : NsTime,
        0 ≤ (ts.toNat : Int) - theta → (ts.toNat : Int) - theta < 18446744073709551616 →
        ((ptpTime ts (ptpOffset ctx sync)).toNat : Int) = ts.toNat - theta) := by
  have trip : roundTrip sync = forward + backward := by
    unfold roundTrip
    omega
  have half : (roundTrip sync).tdiv 2 = (forward + backward) / 2 := by
    rw [half_toward_zero, trip, if_pos (by omega)]
  have delay := mean_path_delay_exact below
  have offset := offset_exact below held
  rw [half] at delay offset
  have theta' : (ptpOffset ctx sync).toInt = theta + ceilHalf (forward - backward) := by
    unfold ceilHalf
    omega
  have time : ∀ ts : NsTime,
      0 ≤ (ts.toNat : Int) - theta - ceilHalf (forward - backward) →
      (ts.toNat : Int) - theta - ceilHalf (forward - backward) < 18446744073709551616 →
      ((ptpTime ts (ptpOffset ctx sync)).toNat : Int) =
        ts.toNat - theta - ceilHalf (forward - backward) := by
    intro ts low high
    rw [ptpTime, sub_signed_value ts (ptpOffset ctx sync)] <;> omega
  refine ⟨delay, theta', fun ts _ _ low high => time ts low high, ?_⟩
  rintro rfl ts low high
  have even : ceilHalf (forward - forward) = 0 := by
    unfold ceilHalf
    omega
  have exact := time ts (by omega) (by omega)
  omega

def sampleTimes : PtpcSyncCtx :=
  { zeroSync with state := .sFollowUp, t1 := 1000, t2 := 1540, t3 := 2000, t4 := 1520 }

/-- The local clock is 500 ahead, the delays are 40 and 20, and local time 3000
is taken for 2490. -/
theorem sample_clock_recovered :
    (ptpMeanPathDelay sampleTimes).toInt = 30 ∧
      ((ptpTime 3000 (ptpOffset { sampleCtx with meanPathDelay := 30 } sampleTimes)).toNat : Int) =
        2490 := by
  have recovered := clock_recovered 500 40 20 { sampleCtx with meanPathDelay := 30 } sampleTimes
    (by decide) (by decide) ⟨by decide, by decide, by decide, by decide⟩ (by decide) (by decide)
    (by decide)
  constructor
  · rw [recovered.1]
    decide
  · rw [recovered.2.2.1 3000 (by decide) (by decide) (by decide) (by decide)]
    decide

/-! ## Timestamps from the network -/

def decodedSeconds (ts : Timestamp) : Nat := (ntohs ts.secMsb).toNat * 16 + (ntohl ts.secLsb).toNat

theorem decoded_seconds_value (ts : Timestamp) :
    (((ntohs ts.secMsb).toUInt64 <<< 4) + (ntohl ts.secLsb).toUInt64).toNat =
      decodedSeconds ts := by
  have high := (ntohs ts.secMsb).toNat_lt
  have low := (ntohl ts.secLsb).toNat_lt
  have four : (4 : UInt64).toNat % 64 = 4 := rfl
  rw [UInt64.toNat_add, UInt64.toNat_shiftLeft, four, Nat.shiftLeft_eq, UInt16.toNat_toUInt64,
    UInt32.toNat_toUInt64, Nat.mod_eq_of_lt (by omega), Nat.mod_eq_of_lt (by omega)]
  rfl

/-- The decoding wraps for no content of the ten bytes. -/
theorem tstamp_to_ns_value (ts : Timestamp) :
    (tstampToNs ts).toNat = decodedSeconds ts * 1000000000 + (ntohl ts.ns).toNat := by
  have seconds : decodedSeconds ts < 4296015856 := by
    have high := (ntohs ts.secMsb).toNat_lt
    have low := (ntohl ts.secLsb).toNat_lt
    unfold decodedSeconds
    omega
  have nanoseconds := (ntohl ts.ns).toNat_lt
  have second : nsSec.toNat = 1000000000 := rfl
  rw [tstampToNs, UInt64.toNat_add, UInt64.toNat_mul, decoded_seconds_value, second,
    UInt32.toNat_toUInt64]
  generalize decodedSeconds ts = whole at seconds ⊢
  generalize (ntohl ts.ns).toNat = part at nanoseconds ⊢
  omega

theorem tstamp_to_ns_below (ts : Timestamp) : (tstampToNs ts).toNat < 4611686018427387904 := by
  have high := (ntohs ts.secMsb).toNat_lt
  have low := (ntohl ts.secLsb).toNat_lt
  have nanoseconds := (ntohl ts.ns).toNat_lt
  rw [tstamp_to_ns_value, decodedSeconds]
  omega

/-! ## Adopting a measurement -/

/-- The test on which a measurement is stored. -/
def Adopts (ctx : PtpcCtx) (sync : PtpcSyncCtx) : Prop :=
  ctx.meanPathDelay = 0 ∨ (ptpMeanPathDelay sync).toUInt64 ≤ ctx.meanPathDelay.toUInt64

instance (ctx : PtpcCtx) (sync : PtpcSyncCtx) : Decidable (Adopts ctx sync) :=
  inferInstanceAs (Decidable (_ ∨ _))

theorem update_adopted {ctx : PtpcCtx} {sync : PtpcSyncCtx} (adopts : Adopts ctx sync) :
    (updateMeanPathDelay ctx sync).meanPathDelay = ptpMeanPathDelay sync ∧
      (updateMeanPathDelay ctx sync).ptpOffset =
        ptpOffset (updateMeanPathDelay ctx sync) sync := by
  unfold Adopts at adopts
  simp only [updateMeanPathDelay, if_pos adopts, Int64.toInt64_toUInt64, true_and]
  rfl

theorem update_declined {ctx : PtpcCtx} {sync : PtpcSyncCtx} (declines : ¬Adopts ctx sync) :
    updateMeanPathDelay ctx sync = ctx := by
  unfold Adopts at declines
  simp only [updateMeanPathDelay, if_neg declines]

/-- Whatever the timestamp fields of the Follow_Up and of the Delay_Resp hold,
nothing wraps, and an adopted measurement is stored as the exact integers. -/
theorem hostile_timestamps_are_exact (s : PtpState) (followUp : Timestamp) (bytes : Bytes)
    (send : SendResult) (t3 : NsTime) (decoded : s.sync.t1 = tstampToNs followUp)
    (t2Below : s.sync.t2.toNat < 4611686018427387904)
    (t3Below : s.sync.t3.toNat < 4611686018427387904) :
    ∃ received sync, received = { s with ptpc := s.ptpc.receive bytes } ∧
      sync = delayRespSync received ∧
      (∀ ts, (tstampToNs ts).toNat = decodedSeconds ts * 1000000000 + (ntohl ts.ns).toNat) ∧
      SignedExact sync ∧ (ptpMeanPathDelay sync).toInt = (roundTrip sync).tdiv 2 ∧
      (classify received = .delayResp → Adopts s.ptpc sync →
        ∃ stored, stored = (ptpcRecvGeneralPacket s (.datagram bytes) send t3).state.ptpc ∧
          stored.meanPathDelay.toInt = (roundTrip sync).tdiv 2 ∧
          stored.ptpOffset.toInt =
            (sync.t2.toNat : Int) - sync.t1.toNat - (roundTrip sync).tdiv 2) := by
  refine ⟨_, _, rfl, rfl, tstamp_to_ns_value, ?_⟩
  generalize received : ({ s with ptpc := s.ptpc.receive bytes } : PtpState) = current
  have sameSync : current.sync = s.sync := by rw [← received]
  have below : TimesBelow (delayRespSync current) := by
    have fields := delay_resp_sync_fields current
    constructor
    · rw [fields.2.2.2.1, sameSync, decoded]
      exact tstamp_to_ns_below followUp
    · rw [delayRespSync, sameSync]
      exact t2Below
    · rw [fields.2.2.2.2, sameSync]
      exact t3Below
    · exact tstamp_to_ns_below _
  refine ⟨signed_exact below, mean_path_delay_exact below, ?_⟩
  intro accepted adopts
  have stored : (ptpcRecvGeneralPacket s (.datagram bytes) send t3).state.ptpc =
      updateMeanPathDelay current.ptpc (delayRespSync current) := by
    rw [ptpcRecvGeneralPacket, received, handle_general_eq, accepted]
    rfl
  have adopted : Adopts current.ptpc (delayRespSync current) := by
    rwa [← received] at adopts ⊢
  obtain ⟨delay, offset⟩ := update_adopted adopted
  refine ⟨_, rfl, ?_⟩
  rw [stored]
  constructor
  · rw [delay]
    exact mean_path_delay_exact below
  · rw [offset]
    exact offset_exact below delay

/-- The Follow_Up carried ones in all its ten bytes. -/
def sampleHostile : PtpState where
  ptpc := sampleCtx
  sync :=
    { zeroSync with
      state := .sFollowUp
      seqid := 0x0700
      t1 := tstampToNs ⟨0xffff, 0xffffffff, 0xffffffff⟩
      t2 := 1000
      t3 := 1500 }

set_option maxRecDepth 5000 in
theorem sample_hostile_timestamps :
    ∃ stored : PtpcCtx,
      stored = (ptpcRecvGeneralPacket sampleHostile (.datagram (sampleMsg ptpMsgidDelayResp 5)) .sent
        2000).state.ptpc ∧
      stored.meanPathDelay.toInt = -2148007927147483897 ∧
      stored.ptpOffset.toInt = -2148007932147482398 := by
  obtain ⟨_, _, rfl, rfl, -, -, -, adopted⟩ := hostile_timestamps_are_exact sampleHostile
    ⟨0xffff, 0xffffffff, 0xffffffff⟩ (sampleMsg ptpMsgidDelayResp 5) .sent 2000 rfl (by decide)
    (by decide)
  obtain ⟨stored, same, delay, offset⟩ := adopted (by decide) (by decide)
  refine ⟨stored, same, delay.trans ?_, offset.trans ?_⟩
  · decide +kernel
  · decide +kernel

end AoipCore.Ptp
