import AoipCore.Library.MachineInt
import AoipCore.Ptp.Exchange

/-!
# `ptpc_announce_msg_loop` and `ptpc_sync_loop`

The result variable of `ptpc_sync_loop` also receives the elapsed time, so the
value returned depends on how a 64-bit difference is stored in an `int` and
compared with an unsigned constant. `timed_out_iff` and `stored_negative_iff`
give both in terms of the low 32 bits of the elapsed time.
-/

namespace AoipCore.Ptp

open ByteBuffer ControlLoop MachineInt AoipCore.Host AoipCore.Timer

set_option autoImplicit false

structure AnnouncePass where
  stop : Bool
  now : NsTime
  general : RecvResult
  sender : UInt32
  deriving DecidableEq, Repr

def announcePass (timeoutTimer : NsTime) : Body PtpcCtx AnnouncePass Int32 := fun ctx pass =>
  if pass.stop then .leave 0 ctx
  else
    let call := ptpcRecvAnnounceMsg ctx pass.general pass.sender
    if call.1 ≠ 0 then .leave 0 call.2
    else if nsSub pass.now timeoutTimer ≥ timeoutPtpAnnounceTimer then .leave (-1) call.2
    else .next call.2

/-- Leaves with the value returned; `.next` while it still waits. -/
def ptpcAnnounceMsgLoop (ctx : PtpcCtx) (start : NsTime) (passes : List AnnouncePass) :
    Flow PtpcCtx Int32 :=
  run (announcePass start) ctx passes

structure SyncPass where
  stop : Bool
  poll : PtpPoll
  deriving DecidableEq, Repr

structure SyncLoopState where
  ptp : PtpState
  ret : Int32
  deriving DecidableEq

/-- Why `ptpc_sync_loop` returned: `network_stop_flag` was set,
`synced_count` was 10, a receiver failed, or the PTP timeout expired. -/
inductive SyncExit where
  | stopped
  | synced
  | failed
  | timeout
  deriving DecidableEq, Repr

/-- `ret = ns_sub(sync.now, sync.timeout_timer)`, an `int`. -/
def storedElapsed (sync : PtpcSyncCtx) : Int32 :=
  (nsSub sync.now sync.timeoutTimer).toUInt32.toInt32

/-- `ret >= TIMEOUT_PTP_TIMER`, with `ret` converted to the constant's type. -/
def storedTimedOut (ret : Int32) : Bool := ret.toInt64.toUInt64 ≥ timeoutPtpTimer

def syncLoopPass : Body SyncLoopState SyncPass SyncExit := fun s pass =>
  if pass.stop then .leave .stopped s
  else if s.ptp.sync.syncedCount = 10 then
    .leave .synced { s with ptp := s.ptp.tick pass.poll.now }
  else
    match ptpPass s.ptp pass.poll with
    | .leave _ ptp => .leave .failed { ptp := ptp, ret := -1 }
    | .next ptp =>
        let ret := storedElapsed ptp.sync
        if storedTimedOut ret then .leave .timeout { ptp := ptp, ret := ret }
        else .next { ptp := ptp, ret := ret }

def syncLoopStart (ptpc : PtpcCtx) (now : NsTime) : SyncLoopState where
  ptp := ptpLoopStart ptpc now
  ret := 0

def ptpcSyncLoop (ptpc : PtpcCtx) (start : NsTime) (passes : List SyncPass) :
    Flow SyncLoopState SyncExit :=
  run syncLoopPass (syncLoopStart ptpc start) passes

theorem sync_pass_falls_through {s next : SyncLoopState} {pass : SyncPass}
    (step : syncLoopPass s pass = .next next) :
    s.ptp.sync.syncedCount ≠ 10 ∧ ptpPass s.ptp pass.poll = .next next.ptp ∧
      next.ret = storedElapsed next.ptp.sync ∧ storedTimedOut next.ret = false := by
  unfold syncLoopPass at step
  split_ifs at step with stop synced
  cases outcome : ptpPass s.ptp pass.poll with
  | leave failure ptp => simp [outcome] at step
  | next ptp =>
      simp only [outcome] at step
      split_ifs at step with expired
      obtain rfl := Flow.next.inj step
      exact ⟨synced, rfl, rfl, by simpa using expired⟩

theorem sync_history_ptp {ptpc : PtpcCtx} {start : NsTime}
    {past : List (SyncLoopState × SyncPass)} {s : SyncLoopState}
    (history : History syncLoopPass (syncLoopStart ptpc start) past s) :
    History ptpPass (ptpLoopStart ptpc start)
      (past.map (Prod.map SyncLoopState.ptp SyncPass.poll)) s.ptp :=
  history_project SyncLoopState.ptp SyncPass.poll
    (fun _ _ _ step => (sync_pass_falls_through step).2.1) history

/-- The low 32 bits of the elapsed time are all that `ret` keeps. -/
def elapsedLow (sync : PtpcSyncCtx) : Nat :=
  (nsSub sync.now sync.timeoutTimer).toNat % 2 ^ 32

theorem stored_elapsed_value (sync : PtpcSyncCtx) :
    (storedElapsed sync).toInt =
      if elapsedLow sync < 2147483648 then (elapsedLow sync : Int)
      else (elapsedLow sync : Int) - 4294967296 := by
  rw [storedElapsed, to_int32_value, UInt64.toNat_toUInt32, elapsedLow]

theorem stored_negative_iff (sync : PtpcSyncCtx) :
    storedElapsed sync < 0 ↔ 2 ^ 31 ≤ elapsedLow sync := by
  have low : elapsedLow sync < 2 ^ 32 := Nat.mod_lt _ (by decide)
  have zero : (0 : Int32).toInt = 0 := rfl
  rw [Int32.lt_iff_toInt_lt, zero, stored_elapsed_value]
  split_ifs <;> omega

theorem timed_out_iff (sync : PtpcSyncCtx) :
    storedTimedOut (storedElapsed sync) = true ↔ 2000000000 ≤ elapsedLow sync := by
  have low : elapsedLow sync < 2 ^ 32 := Nat.mod_lt _ (by decide)
  have value := stored_elapsed_value sync
  have widened := to_uint64_value (storedElapsed sync).toInt64
  have limit : timeoutPtpTimer.toNat = 2000000000 := by decide
  rw [Int32.toInt_toInt64, value] at widened
  rw [storedTimedOut, decide_eq_true_eq, ge_iff_le, UInt64.le_iff_toNat_le, limit]
  split_ifs at widened <;> omega

/-- The window of elapsed times that expire the timer and are stored as a
positive `int`. -/
def PositiveWindow (elapsed : Nat) : Prop := 2000000000 ≤ elapsed ∧ elapsed < 2 ^ 31

instance (elapsed : Nat) : Decidable (PositiveWindow elapsed) :=
  inferInstanceAs (Decidable (_ ∧ _))

theorem sync_pass_leaves {s final : SyncLoopState} {pass : SyncPass} {exit : SyncExit}
    (step : syncLoopPass s pass = .leave exit final) :
    (exit = .stopped ∧ pass.stop = true ∧ final = s) ∨
      (exit = .synced ∧ s.ptp.sync.syncedCount = 10 ∧
        final = { s with ptp := s.ptp.tick pass.poll.now }) ∨
      (exit = .failed ∧ final.ret = -1) ∨
      (exit = .timeout ∧ s.ptp.sync.syncedCount ≠ 10 ∧
        ptpPass s.ptp pass.poll = .next final.ptp ∧
        final.ret = storedElapsed final.ptp.sync ∧ 2000000000 ≤ elapsedLow final.ptp.sync) := by
  unfold syncLoopPass at step
  split_ifs at step with stop synced
  · cases step
    exact .inl ⟨rfl, stop, rfl⟩
  · cases step
    exact .inr (.inl ⟨rfl, synced, rfl⟩)
  · cases outcome : ptpPass s.ptp pass.poll with
    | leave failure ptp =>
        simp only [outcome] at step
        cases step
        exact .inr (.inr (.inl ⟨rfl, rfl⟩))
    | next ptp =>
        simp only [outcome] at step
        split_ifs at step with expired
        cases step
        exact .inr (.inr (.inr ⟨rfl, synced, rfl, rfl, (timed_out_iff ptp.sync).mp expired⟩))

/-- Between two passes `ret` is what the last timeout test saw, and was short
of the limit. -/
theorem sync_history_ret {ptpc : PtpcCtx} {start : NsTime}
    {past : List (SyncLoopState × SyncPass)} {s : SyncLoopState}
    (history : History syncLoopPass (syncLoopStart ptpc start) past s) : 0 ≤ s.ret := by
  apply history_invariant (fun s => 0 ≤ s.ret) (show (0 : Int32) ≤ 0 by decide) _ history
  intro s pass next _ step
  obtain ⟨-, -, stored, running⟩ := sync_pass_falls_through step
  rw [stored] at running ⊢
  have short : ¬2000000000 ≤ elapsedLow next.ptp.sync := by
    rw [← timed_out_iff, running]
    decide
  rw [← Int32.not_lt, stored_negative_iff]
  omega

/-- The value `ptpc_sync_loop` returns is negative exactly when a receiver
failed or the timer expired outside the window. -/
theorem sync_loop_negative_iff {ptpc : PtpcCtx} {start : NsTime}
    {past : List (SyncLoopState × SyncPass)} {last final : SyncLoopState} {pass : SyncPass}
    {exit : SyncExit} (history : History syncLoopPass (syncLoopStart ptpc start) past last)
    (step : syncLoopPass last pass = .leave exit final) :
    final.ret < 0 ↔
      exit = .failed ∨ (exit = .timeout ∧ ¬PositiveWindow (elapsedLow final.ptp.sync)) := by
  have nonnegative := sync_history_ret history
  rcases sync_pass_leaves step with ⟨rfl, -, rfl⟩ | ⟨rfl, -, rfl⟩ | ⟨rfl, failed⟩ |
    ⟨rfl, -, -, stored, expired⟩
  · simpa using nonnegative
  · simpa using nonnegative
  · simp [failed]
  · rw [stored, stored_negative_iff]
    simp only [PositiveWindow, reduceCtorEq, false_or, true_and, not_and, not_lt]
    exact ⟨fun negative _ => negative, fun outside => outside expired⟩

/-! ## Timeouts in terms of the clock -/

def refreshesTimer (s : PtpState) (poll : PtpPoll) : Bool :=
  acceptsSync s poll ||
    decide (generalKind s poll ∈ [GeneralKind.reset, .followUp, .delayResp])

theorem sync_after_event_timer (s : PtpState) (poll : PtpPoll) :
    (syncAfterEvent s poll).now = poll.now ∧
      (syncAfterEvent s poll).timeoutTimer =
        if acceptsSync s poll then poll.now else s.sync.timeoutTimer := by
  unfold syncAfterEvent
  split_ifs <;> exact ⟨rfl, rfl⟩

theorem pass_timer {s next : PtpState} {poll : PtpPoll} (step : ptpPass s poll = .next next) :
    next.sync.now = poll.now ∧
      next.sync.timeoutTimer =
        if refreshesTimer s poll then poll.now else s.sync.timeoutTimer := by
  obtain ⟨-, general, rfl⟩ := pass_falls_through s next poll step
  obtain ⟨now, timer⟩ := sync_after_event_timer s poll
  rw [general_call_eq] at general ⊢
  unfold refreshesTimer
  cases kind : generalKind s poll with
  | ignored =>
      refine ⟨now, ?_⟩
      simp only [List.mem_cons, reduceCtorEq, List.not_mem_nil, or_self, decide_false,
        Bool.or_false]
      exact timer
  | failed => simp [kind] at general
  | reset =>
      refine ⟨now, ?_⟩
      rw [if_pos (by simp)]
      exact now
  | newServer => simp [kind] at general
  | followUp =>
      have sent : poll.send ≠ .failed := by
        intro failed
        simp [kind, accept_follow_up_eq, failed] at general
      simp only [accept_follow_up_eq, if_neg sent]
      refine ⟨now, ?_⟩
      rw [if_pos (by simp)]
      exact now
  | delayResp =>
      refine ⟨now, ?_⟩
      rw [if_pos (by simp)]
      exact now

/-- The pass reaches the timeout test without any progress, and the time since
`timeout_timer` was last set, modulo 2^32, lies in the window. -/
def PositiveTimeout (s : SyncLoopState) (pass : SyncPass) : Prop :=
  (pass.stop = false ∧ s.ptp.sync.syncedCount ≠ 10 ∧ pass.poll.event ≠ .failed ∧
      ¬(generalCall s.ptp pass.poll).ret < 0) ∧
    refreshesTimer s.ptp pass.poll = false ∧
    PositiveWindow ((nsSub pass.poll.now s.ptp.sync.timeoutTimer).toNat % 2 ^ 32)

instance (s : SyncLoopState) (pass : SyncPass) : Decidable (PositiveTimeout s pass) :=
  inferInstanceAs (Decidable (_ ∧ _ ∧ _))

theorem elapsed_low_after {s next : PtpState} {poll : PtpPoll}
    (step : ptpPass s poll = .next next) :
    elapsedLow next.sync =
      if refreshesTimer s poll then 0
      else (nsSub poll.now s.sync.timeoutTimer).toNat % 2 ^ 32 := by
  obtain ⟨now, timer⟩ := pass_timer step
  rw [elapsedLow, now, timer]
  split_ifs
  · simp [nsSub]
  · rfl

theorem sync_pass_reaches_test {s : SyncLoopState} {pass : SyncPass} (running : pass.stop = false)
    (unsynced : s.ptp.sync.syncedCount ≠ 10) (event : pass.poll.event ≠ .failed)
    (general : ¬(generalCall s.ptp pass.poll).ret < 0) :
    ∃ ptp, ptpPass s.ptp pass.poll = .next ptp ∧
      syncLoopPass s pass =
        if storedTimedOut (storedElapsed ptp.sync) then
          .leave .timeout { ptp := ptp, ret := storedElapsed ptp.sync }
        else .next { ptp := ptp, ret := storedElapsed ptp.sync } := by
  have passed := pass_of_nonnegative s.ptp pass.poll event general
  refine ⟨_, passed, ?_⟩
  rw [syncLoopPass, running, if_neg Bool.false_ne_true, if_neg unsynced, passed]

theorem positive_timeout_leaves {s : SyncLoopState} {pass : SyncPass}
    (positive : PositiveTimeout s pass) :
    ∃ final, syncLoopPass s pass = .leave .timeout final ∧
      PositiveWindow (elapsedLow final.ptp.sync) := by
  obtain ⟨⟨running, unsynced, event, general⟩, idle, window⟩ := positive
  obtain ⟨ptp, passed, result⟩ := sync_pass_reaches_test running unsynced event general
  have elapsed := elapsed_low_after passed
  rw [idle, if_neg Bool.false_ne_true] at elapsed
  rw [← elapsed] at window
  rw [if_pos ((timed_out_iff ptp.sync).mpr window.1)] at result
  exact ⟨_, result, window⟩

theorem timeout_in_window {s final : SyncLoopState} {pass : SyncPass}
    (step : syncLoopPass s pass = .leave .timeout final)
    (window : PositiveWindow (elapsedLow final.ptp.sync)) : PositiveTimeout s pass := by
  have running : pass.stop = false := by
    cases stop : pass.stop with
    | true => simp [syncLoopPass, stop] at step
    | false => rfl
  rcases sync_pass_leaves step with ⟨exit, -⟩ | ⟨exit, -⟩ | ⟨exit, -⟩ |
    ⟨-, unsynced, passed, -, -⟩
  · cases exit
  · cases exit
  · cases exit
  · obtain ⟨event, general, -⟩ := pass_falls_through _ _ _ passed
    have elapsed := elapsed_low_after passed
    cases idle : refreshesTimer s.ptp pass.poll with
    | true =>
        rw [idle, if_pos rfl] at elapsed
        rw [elapsed] at window
        exact absurd window.1 (by decide)
    | false =>
        rw [idle, if_neg Bool.false_ne_true] at elapsed
        rw [elapsed] at window
        exact ⟨⟨running, unsynced, event, general⟩, idle, window⟩

/-- The loop ends with a timeout in the window exactly when one of its passes
is such a pass. -/
theorem positive_timeout_made_iff {ptpc : PtpcCtx} {start : NsTime}
    {past : List (SyncLoopState × SyncPass)} {last final : SyncLoopState} {pass : SyncPass}
    {exit : SyncExit} (history : History syncLoopPass (syncLoopStart ptpc start) past last)
    (step : syncLoopPass last pass = .leave exit final) :
    (∃ made ∈ past ++ [(last, pass)], PositiveTimeout made.1 made.2) ↔
      exit = .timeout ∧ PositiveWindow (elapsedLow final.ptp.sync) := by
  constructor
  · rintro ⟨made, member, positive⟩
    obtain ⟨reached, left, window⟩ := positive_timeout_leaves positive
    rcases List.mem_append.mp member with earlier | leaving
    · obtain ⟨next, onward⟩ := history_fell_through history made earlier
      rw [left] at onward
      cases onward
    · obtain rfl := List.mem_singleton.mp leaving
      rw [left] at step
      cases step
      exact ⟨rfl, window⟩
  · rintro ⟨rfl, window⟩
    exact ⟨(last, pass), by simp, timeout_in_window step window⟩

end AoipCore.Ptp
