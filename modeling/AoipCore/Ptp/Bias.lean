import AoipCore.Ptp.Clock
import AoipCore.Ptp.Measurement

/-!
# How far the recovered clock is off

The reading that a measurement uses as `t2` is that of the pass which processes
the Delay_Resp, so the time from the Sync to there counts as delay on the way
of the Sync. An observer knows that the local clock is `theta` ahead of the
master, that a Delay_Req takes at most `bound`, and that no exchange takes less
than `least` from the poll that accepted its Sync to the one that processes its
Delay_Resp. From the first measurement on the stored offset then exceeds
`theta` by the stored delay up to `bound`, and the stored delay is at least
half of `least`.
-/

namespace AoipCore.Ptp

open ByteBuffer ControlLoop MachineInt AoipCore.Host AoipCore.Timer

set_option autoImplicit false

/-- The exchange that `pass` measures, `earlier` being the passes before it:
the Sync was not received before it was sent, the exchange lasted at least
`least`, and the Delay_Req was at most `bound` under way. -/
structure HonestExchange (theta bound least : Int) (earlier : List PtpPassed) (pass : PtpPassed) :
    Prop where
  reading : pass.2.t2.toNat < 4611686018427387904
  request : pass.1.sync.t3.toNat < 4611686018427387904
  lasted : ∀ accepting, lastAccept earlier = some accepting →
    (pass.1.sync.t1.toNat : Int) + theta ≤ accepting.2.t2.toNat ∧
      (accepting.2.t2.toNat : Int) + least ≤ pass.2.t2.toNat
  answered : 0 ≤ ((tstampToNs (tstamp (generalMsg pass))).toNat : Int) - pass.1.sync.t3.toNat + theta ∧
    ((tstampToNs (tstamp (generalMsg pass))).toNat : Int) - pass.1.sync.t3.toNat + theta ≤ bound

/-- The clock error the results imply, and the delay they rest on. -/
structure Biased (theta bound least : Int) (stored : Int64 × Int64) : Prop where
  delay : least / 2 ≤ stored.1.toInt
  atLeast : stored.1.toInt - bound ≤ stored.2.toInt - theta
  atMost : stored.2.toInt - theta ≤ stored.1.toInt + 1

/-! ## One measurement -/

theorem sync_after_event_times (s : PtpState) (poll : PtpPoll) :
    (syncAfterEvent s poll).t1 = s.sync.t1 ∧ (syncAfterEvent s poll).t2 = poll.t2 ∧
      (syncAfterEvent s poll).t3 = s.sync.t3 := by
  unfold syncAfterEvent
  split_ifs <;> exact ⟨rfl, rfl, rfl⟩

theorem delay_resp_sync_times (s : PtpState) :
    (delayRespSync s).t1 = s.sync.t1 ∧ (delayRespSync s).t2 = s.sync.t2 ∧
      (delayRespSync s).t3 = s.sync.t3 ∧
      (delayRespSync s).t4 = tstampToNs (tstamp s.ptpc.rxbuf.bytes) := by
  obtain ⟨ptpc, sync⟩ := s
  cases sync
  exact ⟨rfl, rfl, rfl, rfl⟩

theorem measured_times (s : PtpState) (poll : PtpPoll) :
    (delayRespSync (parsed s poll)).t1 = s.sync.t1 ∧
      (delayRespSync (parsed s poll)).t2 = poll.t2 ∧
      (delayRespSync (parsed s poll)).t3 = s.sync.t3 ∧
      (delayRespSync (parsed s poll)).t4 = tstampToNs (tstamp (generalMsg (s, poll))) := by
  obtain ⟨t1, t2, t3, t4⟩ := delay_resp_sync_times (parsed s poll)
  obtain ⟨held1, held2, held3⟩ := sync_after_event_times s poll
  exact ⟨t1.trans held1, t2.trans held2, t3.trans held3, t4⟩

/-- What is left of an honest exchange once `t2` has been overwritten. -/
structure HonestTimes (theta bound least : Int) (sync : PtpcSyncCtx) : Prop where
  below : TimesBelow sync
  forward : least ≤ (sync.t2.toNat : Int) - sync.t1.toNat - theta
  nonnegative : 0 ≤ (sync.t4.toNat : Int) - sync.t3.toNat + theta
  backward : (sync.t4.toNat : Int) - sync.t3.toNat + theta ≤ bound

theorem honest_times {ptpc : PtpcCtx} {now : NsTime} {past : List PtpPassed} {s : PtpState}
    {theta bound least : Int} (history : History ptpPass (ptpLoopStart ptpc now) past s)
    (poll : PtpPoll) (measured : measures (s, poll) = true)
    (honest : HonestExchange theta bound least past (s, poll)) :
    HonestTimes theta bound least (delayRespSync (parsed s poll)) := by
  obtain ⟨t1, t2, t3, t4⟩ := measured_times s poll
  obtain ⟨before, accepting, since, last, -, pass, -, followed⟩ :=
    delay_resp_after_accept history poll measured
  obtain ⟨sent, processed⟩ := honest.lasted accepting (last_accept_found last)
  dsimp only at sent processed
  constructor
  · constructor
    · rw [t1, followed.t1]
      exact tstamp_to_ns_below _
    · rw [t2]
      exact honest.reading
    · rw [t3]
      exact honest.request
    · rw [t4]
      exact tstamp_to_ns_below _
  · rw [t1, t2]
    omega
  · rw [t3, t4]
    exact honest.answered.1
  · rw [t3, t4]
    exact honest.answered.2

theorem adopted_biased {theta bound least : Int} {ctx : PtpcCtx} {sync : PtpcSyncCtx}
    (lasting : 0 ≤ least) (honest : HonestTimes theta bound least sync)
    (held : ctx.meanPathDelay = ptpMeanPathDelay sync) :
    Biased theta bound least (ctx.meanPathDelay, ptpOffset ctx sync) := by
  have delay := mean_path_delay_exact honest.below
  have offset := offset_exact honest.below held
  obtain ⟨-, forward, nonnegative, backward⟩ := honest
  have trip : roundTrip sync = ((sync.t2.toNat : Int) - sync.t1.toNat - theta) +
      ((sync.t4.toNat : Int) - sync.t3.toNat + theta) := by
    unfold roundTrip
    omega
  have half : (roundTrip sync).tdiv 2 = roundTrip sync / 2 := by
    rw [half_toward_zero, if_pos (by omega)]
  rw [half] at delay offset
  constructor
  · dsimp only
    rw [held, delay]
    omega
  · dsimp only
    rw [held, delay, offset]
    omega
  · dsimp only
    rw [held, delay, offset]
    omega

theorem update_biased {theta bound least : Int} {ctx : PtpcCtx} {sync : PtpcSyncCtx}
    (lasting : 0 ≤ least) (honest : HonestTimes theta bound least sync)
    (before : ctx.meanPathDelay = 0 ∨ Biased theta bound least (ctx.meanPathDelay, ctx.ptpOffset)) :
    Biased theta bound least ((updateMeanPathDelay ctx sync).meanPathDelay,
      (updateMeanPathDelay ctx sync).ptpOffset) := by
  by_cases adopts : Adopts ctx sync
  · obtain ⟨delay, offset⟩ := update_adopted adopts
    rw [offset]
    exact adopted_biased lasting honest delay
  · rw [update_declined adopts]
    rcases before with unset | biased
    · exact absurd (.inl unset) adopts
    · exact biased

/-! ## Whole runs -/

/-- Every exchange measured in `past` is an honest one. -/
def HonestRun (theta bound least : Int) (past : List PtpPassed) : Prop :=
  ∀ earlier pass later, past = earlier ++ pass :: later → measures pass = true →
    HonestExchange theta bound least earlier pass

theorem honest_front {theta bound least : Int} {past : List PtpPassed} {pass : PtpPassed}
    (honest : HonestRun theta bound least (past ++ [pass])) :
    HonestRun theta bound least past := by
  intro earlier each later split
  exact honest earlier each (later ++ [pass]) (by rw [split]; simp)

theorem history_biased {ptpc : PtpcCtx} (unset : ptpc.meanPathDelay = 0)
    {theta bound least : Int} (lasting : 0 ≤ least) {now : NsTime} {past : List PtpPassed}
    {s : PtpState} (history : History ptpPass (ptpLoopStart ptpc now) past s)
    (honest : HonestRun theta bound least past) :
    (measurements past = 0 ∧ s.ptpc.meanPathDelay = 0) ∨ Biased theta bound least (results s) := by
  induction history with
  | start => exact .inl ⟨rfl, unset⟩
  | @pass past s next prior poll step ih =>
      obtain ⟨called, -, rfl⟩ := pass_falls_through s next poll step
      have before := ih (honest_front honest)
      by_cases kind : generalKind s poll = .delayResp
      · right
        have measuring : measures (s, poll) = true := by
          simp [measures, acceptsDelayResp, called, kind]
        have times := honest_times prior poll measuring (honest past (s, poll) [] rfl measuring)
        rw [general_call_eq, kind]
        dsimp only
        rw [accept_delay_resp_eq]
        apply update_biased lasting times
        rcases before with ⟨-, zero⟩ | biased
        · exact .inl zero
        · exact .inr biased
      · have idle : measures (s, poll) = false := by
          simp [measures, acceptsDelayResp, kind]
        have same := general_call_results s poll kind
        rw [same]
        rcases before with ⟨none, zero⟩ | biased
        · left
          unfold measurements at none ⊢
          rw [List.countP_append, none, List.countP_singleton, idle]
          exact ⟨rfl, (congrArg Prod.fst same).trans zero⟩
        · exact .inr biased

/-- From the first measurement on, in every state of a run of honest exchanges,
the local clock corrected by `ptp_offset` differs from the master's by the
stored delay up to `bound`, and by at least half an exchange up to `bound`. -/
theorem clock_error_follows_exchange_time (ptpc : PtpcCtx) (unset : ptpc.meanPathDelay = 0)
    (theta bound least : Int) (lasting : 0 ≤ least) (now : NsTime) (past : List PtpPassed)
    (s : PtpState) (history : History ptpPass (ptpLoopStart ptpc now) past s)
    (honest : HonestRun theta bound least past) (measured : 0 < measurements past) :
    s.ptpc.meanPathDelay.toInt - bound ≤ s.ptpc.ptpOffset.toInt - theta ∧
      s.ptpc.ptpOffset.toInt - theta ≤ s.ptpc.meanPathDelay.toInt + 1 ∧
      least / 2 - bound ≤ s.ptpc.ptpOffset.toInt - theta := by
  rcases history_biased unset lasting history honest with ⟨none, -⟩ | ⟨delay, atLeast, atMost⟩
  · omega
  · unfold results at delay atLeast atMost
    dsimp only at delay atLeast atMost
    exact ⟨atLeast, atMost, by omega⟩

/-- The Delay_Resp of the exchange that `sampleFirst` begins, processed four
seconds after its Sync. -/
def lateDelayResp : PtpPoll :=
  { sampleDelayResp 4000001000 with general := .datagram (sampleMsg ptpMsgidDelayResp 6) }

def lateMeasured : PtpState := (generalCall sampleFollowed lateDelayResp).state

def latePasses : List PtpPassed := [(sampleStart, sampleFirst), (sampleFollowed, lateDelayResp)]

set_option maxRecDepth 5000 in
theorem late_history : History ptpPass (ptpLoopStart sampleCtx 1000) latePasses lateMeasured :=
  .pass sample_history lateDelayResp
    (pass_of_nonnegative sampleFollowed lateDelayResp (by decide) (by decide))

set_option maxRecDepth 5000 in
theorem late_honest : HonestRun (-4999999000) 1000000000 4000000000 latePasses := by
  intro earlier pass later split measured
  have unmeasured : measures (sampleStart, sampleFirst) = false := by decide
  rcases earlier with - | ⟨first, earlier⟩
  · obtain ⟨rfl, -⟩ := List.cons.inj split
    rw [unmeasured] at measured
    cases measured
  · rcases earlier with - | ⟨second, earlier⟩
    · obtain ⟨rfl, rest⟩ := List.cons.inj split
      obtain ⟨rfl, -⟩ := List.cons.inj rest
      refine ⟨by decide, by decide, ?_, by decide⟩
      intro accepting found
      have first : lastAccept [(sampleStart, sampleFirst)] = some (sampleStart, sampleFirst) := rfl
      obtain rfl := Option.some.inj (first.symm.trans found)
      decide
    · have lengths := congrArg List.length split
      simp [latePasses] at lengths

set_option maxRecDepth 5000 in
/-- The exchange took four seconds and the request one: the clock is off by a
second or more. -/
theorem late_clock_error :
    measurements latePasses = 1 ∧ 1000000000 ≤ lateMeasured.ptpc.ptpOffset.toInt + 4999999000 := by
  refine ⟨by decide, ?_⟩
  have bounds := clock_error_follows_exchange_time sampleCtx rfl (-4999999000) 1000000000 4000000000
    (by decide) 1000 latePasses lateMeasured late_history late_honest (by decide)
  omega

end AoipCore.Ptp
