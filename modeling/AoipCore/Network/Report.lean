import AoipCore.MediaClock
import AoipCore.Network.Loop

/-!
# What the results of the network thread say

`network_loop` looks at the sign of what `ptpc_sync_loop` returns, and
`network_cb_run` at the sign of what `network_loop` returns. The first sign is
wrong for one window of elapsed times, the second one is always that of the last
`sap_send`.
-/

namespace AoipCore.Network

open ControlLoop AoipCore.Host AoipCore.Timer AoipCore.Ptp AoipCore.Queue AoipCore.Sap

set_option autoImplicit false

/-! ## The gate behind the sync phase -/

/-- What `network_loop` relies on when `ptpc_sync_loop` has returned. -/
structure SyncGate (ctx : AoipCtx) (env : NetworkRun) (exit : SyncExit) (final : SyncLoopState) :
    Prop where
  passed : 0 ≤ final.ret → final.ptp.sync.syncedCount = 10 ∨ exit = .stopped
  refused : exit = .timeout → final.ret < 0
  returned : exit = .timeout → networkLoop ctx env = some (earlyReturn final.ret)

/-- The gate holds unless a pass of the sync phase finds the timer in the
window. -/
theorem sync_gate_iff {ctx : AoipCtx} {env : NetworkRun} {announced : Int32} {ptpc : PtpcCtx}
    {exit : SyncExit} {final : SyncLoopState}
    (heard : ptpcAnnounceMsgLoop ctx.ptpc env.announceStart env.announce = .leave announced ptpc)
    (accepted : ¬announced < 0)
    (left : ptpcSyncLoop ptpc env.syncStart env.sync = .leave exit final) :
    SyncGate ctx env exit final ↔
      ∀ made ∈ trace syncLoopPass (syncLoopStart ptpc env.syncStart) env.sync,
        ¬PositiveTimeout made.1 made.2 := by
  obtain ⟨past, last, pass, history, passes, step⟩ := run_leave_history left
  have negative := sync_loop_negative_iff history step
  have window := positive_timeout_made_iff history step
  rw [passes]
  constructor
  · intro gate made member positive
    obtain ⟨rfl, inside⟩ := window.mp ⟨made, member, positive⟩
    rcases negative.mp (gate.refused rfl) with failed | ⟨-, outside⟩
    · cases failed
    · exact outside inside
  · intro outside
    have refused : exit = .timeout → final.ret < 0 := by
      intro expired
      apply negative.mpr
      refine .inr ⟨expired, ?_⟩
      intro inside
      obtain ⟨made, member, positive⟩ := window.mpr ⟨expired, inside⟩
      exact outside made member positive
    refine ⟨?_, refused, ?_⟩
    · intro passed
      rw [← Int32.not_lt] at passed
      rcases sync_pass_leaves step with ⟨rfl, -, -⟩ | ⟨rfl, synced, rfl⟩ | ⟨rfl, -⟩ | ⟨rfl, -⟩
      · exact .inr rfl
      · exact .inl synced
      · exact absurd (negative.mpr (.inl rfl)) passed
      · exact absurd (refused rfl) passed
    · intro expired
      simp only [networkLoop, heard, if_neg accepted, left, if_pos (refused expired)]

/-! Runs in which an Announce is heard in the first pass. -/

def sampleAoipCtx (aoipMode : UInt8) : AoipCtx where
  aoipMode := aoipMode
  localAddr := 0x6801000a
  sessName := ascii "aoip-core v0.0.0"
  named := by decide
  audioFormat := 24
  audioSamplingRate := 48000
  audioChannels := 2
  rtpMcastAddr := 0xdeb345ef
  rtpPacketLength := 300
  queue := emptyQueue 300 (fun _ => 1311738121)
  ptpc := { sampleCtx with ptpServerId := 0 }
  nsToRtpTstamp := fun ts rate => (MediaClock.nsToRtpTstamp ts rate).getD 0

def quietPoll (reading : NsTime) : PtpPoll where
  now := reading
  t2 := reading
  event := .again
  general := .again
  send := .sent
  t3 := reading

def quietPass (stop : Bool) (reading : NsTime) : MainPass where
  stop := stop
  poll := quietPoll reading
  audio := id
  rtpRecv := .again
  slotTime := reading
  rtpSend := .sent
  sapSend := .sent

def heardAnnounce : AnnouncePass where
  stop := false
  now := 1000
  general := .datagram (sampleMsg ptpMsgidAnnounce 0)
  sender := 0x6801000a

def sampleRun (sync : List SyncPass) (main : List MainPass) (deletionTime : Int64) :
    NetworkRun where
  announceStart := 1000
  announce := [heardAnnounce]
  syncStart := 1000
  sync := sync
  announceTime := 1311738121
  announceSend := .sent
  mainStart := 2000
  main := main
  deletionTime := deletionTime
  deletionSend := .sent

/-- Nothing is received in the sync phase until the given reading, and
`network_stop_flag` is set right after the phase. -/
def silentRun (reading : NsTime) : NetworkRun :=
  { sampleRun [{ stop := false, poll := quietPoll reading }] [quietPass true reading] 1311738131 with
    mainStart := reading }

def sampleAnnounced : PtpcCtx := (ptpcRecvAnnounceMsg (sampleAoipCtx 1).ptpc heardAnnounce.general
  heardAnnounce.sender).2

theorem sample_announce_heard (reading : NsTime) :
    ptpcAnnounceMsgLoop (sampleAoipCtx 1).ptpc (silentRun reading).announceStart
      (silentRun reading).announce = .leave 0 sampleAnnounced := rfl

/-- Three seconds are stored as a negative `int`. -/
theorem sample_sync_gate :
    ∃ final, ptpcSyncLoop sampleAnnounced 1000 (silentRun 3000001000).sync =
        .leave .timeout final ∧
      SyncGate (sampleAoipCtx 1) (silentRun 3000001000) .timeout final :=
  ⟨_, rfl, (sync_gate_iff (sample_announce_heard 3000001000) (by decide) rfl).mpr (by decide)⟩

/-- Two seconds are stored as a positive one: the session is announced. -/
theorem sample_timed_out_sync_passes :
    ∃ final, ptpcSyncLoop sampleAnnounced 1000 (silentRun 2000001000).sync =
        .leave .timeout final ∧
      final.ret = 2000000000 ∧ final.ptp.sync.syncedCount = 0 ∧
      (networkLoop (sampleAoipCtx 1) (silentRun 2000001000)).map
        (fun result => (result.sapSent.length, result.main)) = some (2, some .stopped) :=
  ⟨_, rfl, by decide +kernel, by decide +kernel, by decide +kernel⟩

/-! ## The result of `network_cb_run` -/

/-- The main loop ended for another reason than `network_stop_flag`. -/
def MainFailed (result : NetworkResult) : Prop :=
  ∃ exit, result.main = some exit ∧ exit ≠ .stopped

/-- A failure of the main loop is reported exactly when the deletion cannot be
sent. -/
theorem failure_reported_iff {ctx : AoipCtx} {env : NetworkRun} {result : NetworkResult}
    (mode : ctx.aoipMode = aoipModePlayback ∨ ctx.aoipMode = aoipModeRecord)
    (finished : networkLoop ctx env = some result) (failed : MainFailed result) :
    ∃ ret, networkCbRun ctx env = some ret ∧ (ret < 0 ↔ env.deletionSend ≠ .sent) := by
  obtain ⟨exit, ended, -⟩ := failed
  obtain ⟨left, s, deleted⟩ := network_loop_entered finished (by rw [ended]; simp)
  have known : ctx.aoipMode ≠ aoipModeNone := by
    rcases mode with playback | record
    · rw [playback]
      decide
    · rw [record]
      decide
  have negative := sap_send_negative_iff (deletion ctx env s.ptp.ptpc) env.deletionSend
  rw [deleted, send_deletion_eq] at finished
  rw [networkCbRun, if_neg known, if_pos mode, finished, Option.map_some]
  refine ⟨_, rfl, ?_⟩
  dsimp only
  rw [← negative]
  split_ifs with refused
  · exact ⟨fun _ => refused, fun _ => by decide⟩
  · exact ⟨fun impossible => absurd impossible (by decide), fun other => absurd other refused⟩

/-- Ten measurements, and the pass that notices the tenth. -/
def syncedPasses : List SyncPass :=
  ({ stop := false, poll := sampleFirst } ::
    List.replicate 10 { stop := false, poll := sampleDelayResp 2000 }) ++
    [{ stop := false, poll := quietPoll 2000 }]

def failingPasses : List MainPass :=
  [{ quietPass false 3000 with poll := { quietPoll 3000 with event := .failed } },
    { quietPass false 3000 with audio := queueWriteNext, rtpSend := .failed },
    { quietPass false 30000002000 with sapSend := .failed },
    quietPass false 2000002000]

/-- A timeout of the main loop, and a deletion that is not sent. -/
def unsentRun : NetworkRun :=
  { sampleRun syncedPasses [quietPass false 2000002000] 1311738131 with deletionSend := .failed }

theorem sample_main_times_out :
    (networkLoop (sampleAoipCtx aoipModePlayback) unsentRun).map NetworkResult.main =
      some (some .timeout) := by
  decide +kernel

theorem sample_failure_reported :
    ∃ ret, networkCbRun (sampleAoipCtx aoipModePlayback) unsentRun = some ret ∧
      (ret < 0 ↔ unsentRun.deletionSend ≠ .sent) := by
  obtain ⟨result, finished, ended⟩ := Option.map_eq_some_iff.mp sample_main_times_out
  exact failure_reported_iff (.inl rfl) finished ⟨.timeout, ended, by decide⟩

/-- With the deletion sent, every failure of the main loop ends in 0. -/
theorem sample_failures_unreported :
    failingPasses.map (fun failing =>
        let env := sampleRun syncedPasses [failing] 1311738131
        ((networkLoop (sampleAoipCtx aoipModeRecord) env).bind NetworkResult.main,
          networkCbRun (sampleAoipCtx aoipModeRecord) env)) =
      [(some (.ptpFailed .recvSyncMsg), some 0), (some .rtpFailed, some 0),
        (some .sapFailed, some 0), (some .timeout, some 0)] := by
  decide +kernel

end AoipCore.Network
