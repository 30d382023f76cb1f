import AoipCore.Library.Watchdog
import AoipCore.Network.Report

/-!
# The timeouts of the two loops

`timeout_timer` is a watchdog of `ptpc_sync_loop` and of the main loop: it holds
the clock reading of the last pass in which one of the receivers made progress.
With readings that never go back, neither loop gives up too early, although one
of them keeps only 32 bits of the elapsed time.

The opposite fails. A `sendto` of the RTP socket that reports `EAGAIN` goes on to
the next pass without looking at either timer.
-/

namespace AoipCore.Network

open ControlLoop Watchdog AoipCore.Host AoipCore.Timer AoipCore.Ptp AoipCore.Queue AoipCore.Record
  AoipCore.Sap

set_option autoImplicit false

def sampleAnnouncement : SapMsg :=
  announcement (sampleAoipCtx aoipModeRecord) (silentRun 1000) sampleAnnounced

def sampleMainStart : MainState :=
  mainStart (sampleAoipCtx aoipModeRecord) sampleAnnounced sampleAnnouncement 1000

/-! ## No timeout is early -/

def syncWatch : Watch syncLoopPass NsTime where
  timer s := s.ptp.sync.timeoutTimer
  reading pass := pass.poll.now
  sets s pass := refreshesTimer s.ptp pass.poll
  step _ _ _ step := (pass_timer (sync_pass_falls_through step).2.1).2

def mainWatch (ctx : AoipCtx) (msg : SapMsg) : Watch (mainPass ctx msg) NsTime where
  timer s := s.ptp.sync.timeoutTimer
  reading pass := pass.poll.now
  sets s pass := refreshesTimer s.ptp pass.poll
  step s pass next step := by
    obtain ⟨ptp, timer, passed, updated⟩ := main_pass_ptp step
    rw [updated]
    exact (pass_timer passed).2

/-- The time since `timeout_timer` was set, as the timeout test computes it, is
the exact difference of the two readings. -/
def ElapsedExact (sync : PtpcSyncCtx) : Prop :=
  sync.timeoutTimer.toNat + (nsSub sync.now sync.timeoutTimer).toNat = sync.now.toNat

theorem elapsed_exact {sync : PtpcSyncCtx} (behind : sync.timeoutTimer ≤ sync.now) :
    ElapsedExact sync := by
  have bounded := UInt64.le_iff_toNat_le.mp behind
  unfold ElapsedExact nsSub
  rw [UInt64.toNat_sub_of_le _ _ behind]
  omega

/-- At the timeout test of a pass the difference is exact, and the timer is not
before any reading at which it was set. -/
theorem test_timely {State Input Result : Type*} {body : Body State Input Result}
    (watch : Watch body NsTime) {start : NsTime} {past : List (State × Input)} {s first : State}
    {pass : Input} (begins : watch.timer first = start) (history : History body first past s)
    (ordered : watch.Ordered start (past ++ [(s, pass)])) {sync : PtpcSyncCtx}
    (now : sync.now = watch.reading pass)
    (timer : sync.timeoutTimer = if watch.sets s pass then watch.reading pass else watch.timer s) :
    ElapsedExact sync ∧
      ∀ setting ∈ watch.settings start (past ++ [(s, pass)]),
        setting.toNat ≤ sync.timeoutTimer.toNat := by
  have before := history_timely UInt64.le_refl begins history (ordered_front ordered)
  have timely := timely_pass UInt64.le_refl before ordered
  have behind := timely_not_ahead UInt64.le_refl timely ordered
  rw [← timer] at timely behind
  constructor
  · apply elapsed_exact
    rw [now]
    exact behind
  · intro setting member
    exact UInt64.le_iff_toNat_le.mp (timely.latest setting member)

/-- The low 32 bits of a short time are the time itself. -/
theorem short_not_timed_out {sync : PtpcSyncCtx}
    (short : (nsSub sync.now sync.timeoutTimer).toNat < 2000000000) :
    storedTimedOut (storedElapsed sync) = false := by
  have low := Nat.mod_le (nsSub sync.now sync.timeoutTimer).toNat (2 ^ 32)
  rw [← Bool.not_eq_true, timed_out_iff, elapsedLow]
  omega

theorem sync_timeout_elapsed {s final : SyncLoopState} {pass : SyncPass}
    (step : syncLoopPass s pass = .leave .timeout final) :
    ∃ ptp, ptpPass s.ptp pass.poll = .next ptp ∧
      2000000000 ≤ (nsSub ptp.sync.now ptp.sync.timeoutTimer).toNat := by
  rcases sync_pass_leaves step with ⟨exit, -⟩ | ⟨exit, -⟩ | ⟨exit, -⟩ | ⟨-, -, passed, -, expired⟩
  · cases exit
  · cases exit
  · cases exit
  · exact ⟨final.ptp, passed, le_trans expired (Nat.mod_le _ _)⟩

theorem main_timeout_elapsed {ctx : AoipCtx} {msg : SapMsg} {s final : MainState}
    {pass : MainPass} (step : mainPass ctx msg s pass = .leave .timeout final) :
    ∃ ptp, ptpPass s.ptp pass.poll = .next ptp ∧
      2000000000 ≤ (nsSub ptp.sync.now ptp.sync.timeoutTimer).toNat := by
  obtain ⟨ptp, passed, expired⟩ := main_pass_timeout step
  have limit : timeoutPtpTimer.toNat = 2000000000 := by decide
  rw [UInt64.le_iff_toNat_le, limit] at expired
  exact ⟨ptp, passed, expired⟩

/-- A timer that lies two seconds behind lies two seconds behind every setting. -/
theorem settings_long_past {sync : PtpcSyncCtx} {settings : List NsTime} {reading : NsTime}
    (exact : ElapsedExact sync) (now : sync.now = reading)
    (latest : ∀ setting ∈ settings, setting.toNat ≤ sync.timeoutTimer.toNat)
    (expired : 2000000000 ≤ (nsSub sync.now sync.timeoutTimer).toNat) :
    ∀ setting ∈ settings, setting.toNat + 2000000000 ≤ reading.toNat := by
  intro setting member
  have set := latest setting member
  unfold ElapsedExact at exact
  rw [← now]
  omega

theorem timeouts_never_early (ptpc : PtpcCtx) (start : NsTime) :
    (∀ past s pass, History syncLoopPass (syncLoopStart ptpc start) past s →
      syncWatch.Ordered start (past ++ [(s, pass)]) →
      (∀ ptp, ptpPass s.ptp pass.poll = .next ptp →
        ElapsedExact ptp.sync ∧
          ((nsSub ptp.sync.now ptp.sync.timeoutTimer).toNat < 2000000000 →
            storedTimedOut (storedElapsed ptp.sync) = false)) ∧
      ∀ final, syncLoopPass s pass = .leave .timeout final →
        ∀ setting ∈ syncWatch.settings start (past ++ [(s, pass)]),
          setting.toNat + 2000000000 ≤ pass.poll.now.toNat) ∧
    ∀ ctx msg past s pass, History (mainPass ctx msg) (mainStart ctx ptpc msg start) past s →
      (mainWatch ctx msg).Ordered start (past ++ [(s, pass)]) →
      (∀ ptp, ptpPass s.ptp pass.poll = .next ptp → ElapsedExact ptp.sync) ∧
      ∀ final, mainPass ctx msg s pass = .leave .timeout final →
        ∀ setting ∈ (mainWatch ctx msg).settings start (past ++ [(s, pass)]),
          setting.toNat + 2000000000 ≤ pass.poll.now.toNat := by
  constructor
  · intro past s pass history ordered
    have timely := fun ptp (passed : ptpPass s.ptp pass.poll = .next ptp) =>
      test_timely syncWatch rfl history ordered (pass_timer passed).1 (pass_timer passed).2
    constructor
    · intro ptp passed
      exact ⟨(timely ptp passed).1, short_not_timed_out⟩
    · intro final step
      obtain ⟨ptp, passed, expired⟩ := sync_timeout_elapsed step
      obtain ⟨exact, latest⟩ := timely ptp passed
      exact settings_long_past exact (pass_timer passed).1 latest expired
  · intro ctx msg past s pass history ordered
    have timely := fun ptp (passed : ptpPass s.ptp pass.poll = .next ptp) =>
      test_timely (mainWatch ctx msg) rfl history ordered (pass_timer passed).1
        (pass_timer passed).2
    constructor
    · intro ptp passed
      exact (timely ptp passed).1
    · intro final step
      obtain ⟨ptp, passed, expired⟩ := main_timeout_elapsed step
      obtain ⟨exact, latest⟩ := timely ptp passed
      exact settings_long_past exact (pass_timer passed).1 latest expired

/-- Both loops give up two seconds after they started without any message. -/
theorem sample_silent_timeouts :
    (∃ final, syncLoopPass (syncLoopStart sampleAnnounced 1000) ⟨false, quietPoll 2000001000⟩ =
        .leave .timeout final ∧
      ∀ setting ∈ syncWatch.settings 1000
          [(syncLoopStart sampleAnnounced 1000, ⟨false, quietPoll 2000001000⟩)],
        setting.toNat + 2000000000 ≤ 2000001000) ∧
    ∃ final, mainPass (sampleAoipCtx aoipModeRecord) sampleAnnouncement sampleMainStart
        (quietPass false 2000001000) = .leave .timeout final ∧
      ∀ setting ∈ (mainWatch (sampleAoipCtx aoipModeRecord) sampleAnnouncement).settings 1000
          [(sampleMainStart, quietPass false 2000001000)],
        setting.toNat + 2000000000 ≤ 2000001000 := by
  obtain ⟨sync, main⟩ := timeouts_never_early sampleAnnounced 1000
  constructor
  · exact ⟨_, rfl, (sync [] _ _ .start (by decide +kernel)).2 _ rfl⟩
  · exact ⟨_, rfl, (main _ _ [] _ _ .start (by decide +kernel)).2 _ rfl⟩

/-! ## Timeouts are skipped -/

def PtpExpired (s : MainState) : Prop :=
  timeoutPtpTimer ≤ nsSub s.ptp.sync.now s.ptp.sync.timeoutTimer

def SapDue (s : MainState) (pass : MainPass) : Prop :=
  timeoutSapTimer ≤ nsSub pass.poll.now s.ptp.sync.sapTimeoutTimer

/-- What a pass that another one follows owes to the two timers. -/
structure TimersServed (msg : SapMsg) (s : MainState) (pass : MainPass) (next : MainState) :
    Prop where
  running : ¬PtpExpired next
  announced : SapDue s pass → next.sapSent = s.sapSent ++ [msg.datagram]

/-- The pass finds the RTP socket blocked while one of the timers has run out. -/
def Postponed (ctx : AoipCtx) (s : MainState) (pass : MainPass) : Prop :=
  (ctx.aoipMode = aoipModeRecord ∧ queueEmpty (pass.audio s.queue) = false ∧
      pass.rtpSend = .again) ∧
    ((refreshesTimer s.ptp pass.poll = false ∧
        timeoutPtpTimer ≤ nsSub pass.poll.now s.ptp.sync.timeoutTimer) ∨
      SapDue s pass)

theorem ptp_expired_iff {s next : PtpState} {poll : PtpPoll}
    (step : ptpPass s poll = .next next) :
    timeoutPtpTimer ≤ nsSub next.sync.now next.sync.timeoutTimer ↔
      refreshesTimer s poll = false ∧ timeoutPtpTimer ≤ nsSub poll.now s.sync.timeoutTimer := by
  obtain ⟨now, timer⟩ := pass_timer step
  rw [now, timer]
  cases refreshesTimer s poll with
  | true =>
      have fresh : nsSub poll.now poll.now = 0 := UInt64.sub_self _
      simp only [if_true, fresh, Bool.true_eq_false, false_and, iff_false]
      decide
  | false => simp

/-- The receivers do not touch `sap_timeout_timer`. -/
theorem ptp_pass_sap_timer {s next : PtpState} {poll : PtpPoll}
    (step : ptpPass s poll = .next next) :
    next.sync.sapTimeoutTimer = s.sync.sapTimeoutTimer := by
  have same : withSapTimer s s.sync.sapTimeoutTimer = s := rfl
  have stepped := ptp_pass_with_sap_timer s.sync.sapTimeoutTimer step
  rw [same, step] at stepped
  exact congrArg (fun state => state.sync.sapTimeoutTimer) (Flow.next.inj stepped)

theorem rtp_stage_again_iff (ctx : AoipCtx) (s : MainState) (pass : MainPass) :
    (rtpStage ctx s pass).2 = .again ↔
      ctx.aoipMode = aoipModeRecord ∧ queueEmpty (pass.audio s.queue) = false ∧
        pass.rtpSend = .again := by
  have distinct : aoipModePlayback ≠ aoipModeRecord := by decide
  unfold rtpStage
  dsimp only
  split_ifs with playback record
  · simp [playback, distinct]
  · cases empty : queueEmpty (pass.audio s.queue) with
    | true => simp [recordBranch, empty]
    | false => cases outcome : pass.rtpSend <;> simp [recordBranch, empty, record]
  · simp [record]

theorem sap_stage_announces {msg : SapMsg} {s next : MainState} {outcome : SendResult}
    (step : sapStage msg s outcome = .next next)
    (due : timeoutSapTimer ≤ nsSub s.ptp.sync.now s.ptp.sync.sapTimeoutTimer) :
    next.sapSent = s.sapSent ++ [msg.datagram] := by
  rw [sapStage, if_pos due] at step
  dsimp only at step
  split_ifs at step
  rw [← Flow.next.inj step]

theorem timers_served_iff {ctx : AoipCtx} {msg : SapMsg} {s next : MainState} {pass : MainPass}
    (step : mainPass ctx msg s pass = .next next) :
    TimersServed msg s pass next ↔ ¬Postponed ctx s pass := by
  obtain ⟨ptp, passed, behind⟩ := main_pass_next step
  obtain ⟨kept, sent⟩ := rtp_stage_keeps ctx (received s pass ptp) pass
  have expired := ptp_expired_iff passed
  have again := rtp_stage_again_iff ctx (received s pass ptp) pass
  rcases after_ptp_next behind with ⟨flow, rfl⟩ | ⟨flow, announced, early⟩
  · -- The pass ended at the blocked socket with both timers as it found them.
    have blocked := again.mp flow
    constructor
    · intro served postponed
      rcases postponed.2 with late | due
      · apply served.running
        rw [PtpExpired, kept]
        exact expired.mpr late
      · have appended := served.announced due
        rw [sent] at appended
        simp [received] at appended
    · intro free
      constructor
      · rw [PtpExpired, kept]
        intro late
        exact free ⟨blocked, .inl (expired.mp late)⟩
      · intro due
        exact absurd ⟨blocked, .inr due⟩ free
  · constructor
    · intro _ postponed
      have contradiction := again.mpr postponed.1
      rw [flow] at contradiction
      cases contradiction
    · intro _
      constructor
      · exact UInt64.not_le.mpr early
      · intro due
        have reached : timeoutSapTimer ≤
            nsSub (rtpStage ctx (received s pass ptp) pass).1.ptp.sync.now
              (rtpStage ctx (received s pass ptp) pass).1.ptp.sync.sapTimeoutTimer := by
          rw [kept]
          unfold received
          rw [(pass_timer passed).1, ptp_pass_sap_timer passed]
          exact due
        have appended := sap_stage_announces announced reached
        rwa [sent] at appended

/-- The relation of every pass of a run that another one follows, to what the
next one starts from. -/
def EveryFollowedPass (ctx : AoipCtx) (msg : SapMsg) (start : MainState) (passes : List MainPass)
    (relation : MainState → MainPass → MainState → Prop) : Prop :=
  ∀ earlier s pass next following later,
    trace (mainPass ctx msg) start passes = earlier ++ (s, pass) :: (next, following) :: later →
      following.stop = false → relation s pass next

theorem timeouts_served_iff (ctx : AoipCtx) (ptpc : PtpcCtx) (msg : SapMsg) (start : NsTime)
    (passes : List MainPass) :
    EveryFollowedPass ctx msg (mainStart ctx ptpc msg start) passes (TimersServed msg) ↔
      EveryFollowedPass ctx msg (mainStart ctx ptpc msg start) passes
        fun s pass _ => ¬Postponed ctx s pass := by
  constructor
  · intro served earlier s pass next following later split running
    have step := trace_step earlier later (s, pass) (next, following) split
    exact (timers_served_iff step).mp (served _ _ _ _ _ _ split running)
  · intro free earlier s pass next following later split running
    have step := trace_step earlier later (s, pass) (next, following) split
    exact (timers_served_iff step).mpr (free _ _ _ _ _ _ split running)

def blockedPass : MainPass :=
  { quietPass false 40000001000 with audio := queueWriteNext, rtpSend := .again }

def sampleBlocked : MainState :=
  (rtpStage (sampleAoipCtx aoipModeRecord)
    (received sampleMainStart blockedPass (ptpPass sampleMainStart.ptp blockedPass.poll).state)
    blockedPass).1

theorem sample_blocked_step :
    mainPass (sampleAoipCtx aoipModeRecord) sampleAnnouncement sampleMainStart blockedPass =
      .next sampleBlocked := by
  apply main_pass_again rfl rfl
  rw [rtp_stage_again_iff]
  decide +kernel

/-- After forty seconds without a message, with a blocked socket, another pass
begins, and the announcement has been sent only once. -/
theorem sample_timeouts_skipped :
    nsSub sampleBlocked.ptp.sync.now sampleBlocked.ptp.sync.timeoutTimer = 40000000000 ∧
      nsSub sampleBlocked.ptp.sync.now sampleBlocked.ptp.sync.sapTimeoutTimer = 40000000000 ∧
      sampleBlocked.sapSent = [sampleAnnouncement.datagram] ∧
      trace (mainPass (sampleAoipCtx aoipModeRecord) sampleAnnouncement) sampleMainStart
          [blockedPass, quietPass false 40000002000] =
        [(sampleMainStart, blockedPass), (sampleBlocked, quietPass false 40000002000)] ∧
      ¬EveryFollowedPass (sampleAoipCtx aoipModeRecord) sampleAnnouncement sampleMainStart
        [blockedPass, quietPass false 40000002000] (TimersServed sampleAnnouncement) := by
  have split : trace (mainPass (sampleAoipCtx aoipModeRecord) sampleAnnouncement) sampleMainStart
      [blockedPass, quietPass false 40000002000] =
        [(sampleMainStart, blockedPass), (sampleBlocked, quietPass false 40000002000)] := by
    simp only [trace, sample_blocked_step]
    cases mainPass (sampleAoipCtx aoipModeRecord) sampleAnnouncement sampleBlocked
      (quietPass false 40000002000) <;> rfl
  refine ⟨by decide +kernel, by decide +kernel, rfl, split, ?_⟩
  intro served
  have running := (served [] _ _ _ _ [] split rfl).running
  exact running (show PtpExpired sampleBlocked by unfold PtpExpired; decide +kernel)

end AoipCore.Network
