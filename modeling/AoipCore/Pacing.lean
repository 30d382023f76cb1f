import AoipCore.Audio
import AoipCore.Library.PeriodicTask
import AoipCore.Network.Lifecycle
import AoipCore.Network.Timeouts

/-!
# How often the loops do their work

Three loops poll the clock and do something whenever a period has passed: the two
audio loops call their callback every millisecond, the main loop of `network_loop`
and `sap_loop` of `simple-sapc` announce the session every thirty seconds. Each of
them sets its timer to the reading that found the period over.
-/

namespace AoipCore.Pacing

open ControlLoop PeriodicTask ByteBuffer AoipCore.Host AoipCore.Timer AoipCore.Ptp AoipCore.Queue
  AoipCore.Sap AoipCore.Network AoipCore.Audio

set_option autoImplicit false

/-- The test of all four loops, for a clock that has not gone back. -/
theorem due_iff {now timer : NsTime} (behind : timer.toNat ≤ now.toNat) (period : NsTime) :
    nsSub now timer ≥ period ↔ timer.toNat + period.toNat ≤ now.toNat := by
  rw [ge_iff_le, UInt64.le_iff_toNat_le, nsSub,
    UInt64.toNat_sub_of_le _ _ (UInt64.le_iff_toNat_le.mpr behind)]
  omega

/-! ## The audio loops -/

def audioTask (callback : AudioCall) : Task (audioPass callback) nsMsec.toNat where
  timer s := s.audioTimer.toNat
  count s := s.calls.length
  reading pass := pass.now.toNat
  skips _ _ := False
  step s pass next step behind := by
    unfold audioPass at step
    split_ifs at step with stop due failed
    · obtain rfl := Flow.next.inj step
      exact .inl ⟨rfl, List.length_append, (due_iff behind nsMsec).mp due⟩
    · obtain rfl := Flow.next.inj step
      rw [due_iff behind] at due
      exact .inr ⟨rfl, rfl, .inl (not_le.mp due)⟩

/-- The callback is never called more than once a millisecond, and each call loses
what the loop was late: with readings up to `gap` apart a call may take that much
longer than a millisecond, and the delays add up. -/
theorem audio_calls_paced (callback : AudioCall) (start : NsTime) (calls : List AudioCall)
    (past : List (AudioLoopState × AudioPass)) (s : AudioLoopState)
    (history : History (audioPass callback) ⟨start, calls⟩ past s) (gap : Nat)
    (polled : ((audioTask callback).readings start.toNat past).IsChain (Within gap)) :
    let count := s.calls.length - calls.length
    let elapsed := (audioTask callback).now start.toNat past - start.toNat
    count * 1000000 ≤ elapsed ∧ elapsed < (count + 1) * (1000000 + gap) := by
  intro count elapsed
  have forward : ((audioTask callback).readings start.toNat past).IsChain Forward :=
    polled.imp fun _ _ both => both.1
  obtain ⟨spaced, behind, -⟩ := rounds_spaced (audioTask callback) history rfl forward
  have rounds : start.toNat + count * 1000000 ≤ (audioTask callback).now start.toNat past :=
    Nat.le_trans spaced behind
  constructor
  · exact Nat.le_sub_of_add_le' rounds
  · exact rounds_bounded (audioTask callback) history rfl (by decide) polled
      fun _ _ skipped => skipped

/-- Two calls in 2.1 ms, the second 0.1 ms late. -/
def samplePolls : List (AudioLoopState × AudioPass) :=
  [(⟨0, []⟩, ⟨false, 1000000, 0⟩), (⟨1000000, [.aoWrite]⟩, ⟨false, 1500000, 0⟩),
    (⟨1000000, [.aoWrite]⟩, ⟨false, 2100000, 0⟩)]

theorem sample_polls_history :
    History (audioPass .aoWrite) ⟨0, []⟩ samplePolls ⟨2100000, [.aoWrite, .aoWrite]⟩ :=
  .pass (.pass (.pass .start _ rfl) _ rfl) _ rfl

theorem sample_calls_paced :
    (audioTask .aoWrite).now 0 samplePolls = 2100000 ∧ 2 * 1000000 ≤ 2100000 ∧
      2100000 < 3 * (1000000 + 1000000) :=
  ⟨rfl, audio_calls_paced .aoWrite 0 [] samplePolls _ sample_polls_history 1000000 (by decide)⟩

/-! ## The announcements of the main loop -/

/-- A packet waits and the RTP socket does not take it: the pass ends there. -/
def Blocked (ctx : AoipCtx) (s : MainState) (pass : MainPass) : Prop :=
  ctx.aoipMode = aoipModeRecord ∧ queueEmpty (pass.audio s.queue) = false ∧ pass.rtpSend = .again

theorem sap_stage_timer {msg : SapMsg} {s next : MainState} {outcome : SendResult}
    (step : sapStage msg s outcome = .next next)
    (behind : s.ptp.sync.sapTimeoutTimer.toNat ≤ s.ptp.sync.now.toNat) :
    (next.ptp.sync.sapTimeoutTimer = s.ptp.sync.now ∧
        next.sapSent.length = s.sapSent.length + 1 ∧
        s.ptp.sync.sapTimeoutTimer.toNat + timeoutSapTimer.toNat ≤ s.ptp.sync.now.toNat) ∨
      (next.ptp.sync.sapTimeoutTimer = s.ptp.sync.sapTimeoutTimer ∧
        next.sapSent.length = s.sapSent.length ∧
        s.ptp.sync.now.toNat < s.ptp.sync.sapTimeoutTimer.toNat + timeoutSapTimer.toNat) := by
  unfold sapStage at step
  dsimp only at step
  split_ifs at step with due failed
  · obtain rfl := Flow.next.inj step
    exact .inl ⟨rfl, List.length_append, (due_iff behind timeoutSapTimer).mp due⟩
  · obtain rfl := Flow.next.inj step
    rw [due_iff behind] at due
    exact .inr ⟨rfl, rfl, not_le.mp due⟩

def announceTask (ctx : AoipCtx) (msg : SapMsg) :
    Task (mainPass ctx msg) timeoutSapTimer.toNat where
  timer s := s.ptp.sync.sapTimeoutTimer.toNat
  count s := s.sapSent.length
  reading pass := pass.poll.now.toNat
  skips s pass := Blocked ctx s pass
  step s pass next step behind := by
    obtain ⟨ptp, passed, rest⟩ := main_pass_next step
    obtain ⟨kept, sent⟩ := rtp_stage_keeps ctx (received s pass ptp) pass
    have timer := ptp_pass_sap_timer passed
    have now := (pass_timer passed).1
    rcases after_ptp_next rest with ⟨flow, rfl⟩ | ⟨-, announced, -⟩
    · have blocked := (rtp_stage_again_iff ctx (received s pass ptp) pass).mp flow
      rw [kept, sent]
      exact .inr ⟨congrArg UInt64.toNat timer, rfl, .inr blocked⟩
    · have stage := sap_stage_timer announced
      rw [kept, sent] at stage
      have timed : (received s pass ptp).ptp.sync.sapTimeoutTimer = s.ptp.sync.sapTimeoutTimer ∧
          (received s pass ptp).ptp.sync.now = pass.poll.now := ⟨timer, now⟩
      rw [timed.1, timed.2] at stage
      rcases stage behind with ⟨set, counted, due⟩ | ⟨same, uncounted, early⟩
      · exact .inl ⟨congrArg UInt64.toNat set, counted, due⟩
      · exact .inr ⟨congrArg UInt64.toNat same, uncounted, .inl early⟩

/-- At most one announcement in thirty seconds; and as long as the RTP socket does not
block a pass, the next one is late by less than the time between two passes. -/
theorem announcements_paced (ctx : AoipCtx) (ptpc : PtpcCtx) (msg : SapMsg) (start : NsTime)
    (past : List (MainState × MainPass)) (s : MainState)
    (history : History (mainPass ctx msg) (mainStart ctx ptpc msg start) past s)
    (forward : ((announceTask ctx msg).readings start.toNat past).IsChain Forward) :
    let elapsed := (announceTask ctx msg).now start.toNat past - start.toNat
    0 < s.sapSent.length ∧ (s.sapSent.length - 1) * 30000000000 ≤ elapsed ∧
      ∀ gap, ((announceTask ctx msg).readings start.toNat past).IsChain (Within gap) →
        (∀ pass ∈ past, ¬Blocked ctx pass.1 pass.2) →
        elapsed < s.sapSent.length * (30000000000 + gap) := by
  intro elapsed
  obtain ⟨spaced, behind, grows⟩ := rounds_spaced (announceTask ctx msg) history rfl forward
  have first : 1 ≤ s.sapSent.length := grows
  have rounds : start.toNat + (s.sapSent.length - 1) * 30000000000 ≤
      (announceTask ctx msg).now start.toNat past := Nat.le_trans spaced behind
  refine ⟨first, Nat.le_sub_of_add_le' rounds, ?_⟩
  intro gap within unblocked
  have bounded : elapsed < (s.sapSent.length - 1 + 1) * (30000000000 + gap) :=
    rounds_bounded (announceTask ctx msg) history rfl (by decide) within unblocked
  rwa [Nat.sub_add_cancel first] at bounded

/-- A Sync after thirty seconds, when the announcement is due again. -/
def samplePass : MainPass :=
  { quietPass false 30000001000 with poll := { sampleFirst with now := 30000001000 } }

def sampleAgain : MainState :=
  (mainPass (sampleAoipCtx aoipModeRecord) sampleAnnouncement sampleMainStart samplePass).state

theorem sample_pass_goes_on :
    mainPass (sampleAoipCtx aoipModeRecord) sampleAnnouncement sampleMainStart samplePass =
      .next sampleAgain :=
  flow_goes_on (by decide +kernel)

theorem sample_announcements_paced :
    sampleAgain.sapSent.length = 2 ∧ (2 - 1) * 30000000000 ≤ 30000000000 ∧
      30000000000 < 2 * (30000000000 + 30000000000) := by
  have paced := announcements_paced (sampleAoipCtx aoipModeRecord) sampleAnnounced
    sampleAnnouncement 1000 [(sampleMainStart, samplePass)] sampleAgain
    (.pass .start samplePass sample_pass_goes_on) (by decide)
  have twice : sampleAgain.sapSent.length = 2 := by decide +kernel
  rw [twice] at paced
  obtain ⟨-, spaced, prompt⟩ := paced
  refine ⟨twice, spaced, prompt 30000000000 (by decide) ?_⟩
  intro pass member blocked
  rw [List.mem_singleton.mp member] at blocked
  exact absurd blocked.2.2 (by decide)

/-! ## `simple-sapc` -/

structure SapcPass where
  stop : Bool
  now : NsTime
  send : SendResult
  deriving DecidableEq, Repr

/-- `sent` logs the datagrams that were sent. -/
structure SapcState where
  timeoutTimer : NsTime
  sent : List Bytes
  deriving DecidableEq, Repr

structure SapcRun where
  time : Int64
  start : NsTime
  first : SendResult
  passes : List SapcPass
  deriving DecidableEq, Repr

def sapcSession : Session where
  streamName := ascii "AOIP_CORE v0.0.0" ++ [0]
  localAddr := 0x6801000a
  rtpMcastAddr := 0xdeb345ef
  audioFormat := 24
  audioSamplingRate := 48000
  audioChannels := 2
  ptpServerId := 0x782351feffc11d00

def sapcPass (msg : SapMsg) : Body SapcState SapcPass Int32 := fun s pass =>
  if pass.stop then .leave 0 s
  else if nsSub pass.now s.timeoutTimer ≥ timeoutSapTimer then
    if sapSend msg pass.send < 0 then .leave (-1) s
    else .next { timeoutTimer := pass.now, sent := s.sent ++ [msg.datagram] }
  else .next s

def sapLoop (session : Session) (env : SapcRun) : Flow SapcState Int32 :=
  match buildSapMsg session sapFlagsAnnounce env.time with
  | none => .leave (-1) { timeoutTimer := env.start, sent := [] }
  | some msg =>
      if sapSend msg env.first < 0 then .leave (-1) { timeoutTimer := env.start, sent := [] }
      else run (sapcPass msg) { timeoutTimer := env.start, sent := [msg.datagram] } env.passes

def sapcTask (msg : SapMsg) : Task (sapcPass msg) timeoutSapTimer.toNat where
  timer s := s.timeoutTimer.toNat
  count s := s.sent.length
  reading pass := pass.now.toNat
  skips _ _ := False
  step s pass next step behind := by
    unfold sapcPass at step
    split_ifs at step with stop due failed
    · obtain rfl := Flow.next.inj step
      exact .inl ⟨rfl, List.length_append, (due_iff behind timeoutSapTimer).mp due⟩
    · obtain rfl := Flow.next.inj step
      rw [due_iff behind] at due
      exact .inr ⟨rfl, rfl, .inl (not_le.mp due)⟩

theorem sapc_pass_copies (msg : SapMsg) (s : SapcState) (pass : SapcPass)
    (copies : ∀ datagram ∈ s.sent, datagram = msg.datagram) :
    ∀ datagram ∈ (sapcPass msg s pass).state.sent, datagram = msg.datagram := by
  unfold sapcPass
  split_ifs
  · exact copies
  · exact copies
  · intro datagram member
    rcases List.mem_append.mp member with earlier | newest
    · exact copies datagram earlier
    · exact List.mem_singleton.mp newest
  · exact copies

/-- The program announces its session and leaves it announced: everything that it
sends, however the loop ends, is the announcement, at most every thirty seconds and
late by less than the time between two readings of the clock. -/
theorem sapc_never_withdraws (env : SapcRun) :
    let msg := sapMsgOf sapcSession sapFlagsAnnounce env.time.toInt32
    (∀ datagram ∈ (sapLoop sapcSession env).state.sent, datagram = msg.datagram) ∧
      ¬Lifecycle (sapLoop sapcSession env).state.sent ∧
      ∀ past s, History (sapcPass msg) { timeoutTimer := env.start, sent := [msg.datagram] } past s →
        ∀ gap, ((sapcTask msg).readings env.start.toNat past).IsChain (Within gap) →
          let elapsed := (sapcTask msg).now env.start.toNat past - env.start.toNat
          (s.sent.length - 1) * 30000000000 ≤ elapsed ∧
            elapsed < s.sent.length * (30000000000 + gap) := by
  intro msg
  have named : (cString sapcSession.streamName).length ≤ 31 := by decide
  have built : buildSapMsg sapcSession sapFlagsAnnounce env.time = some msg :=
    build_sap_msg_eq sapcSession sapFlagsAnnounce env.time named
  have copies : ∀ datagram ∈ (sapLoop sapcSession env).state.sent, datagram = msg.datagram := by
    unfold sapLoop
    rw [built]
    dsimp only
    split_ifs
    · intro datagram member
      cases member
    · apply run_state_invariant (fun s : SapcState => ∀ datagram ∈ s.sent, datagram = msg.datagram)
      · exact fun s pass => sapc_pass_copies msg s pass
      · intro datagram member
        exact List.mem_singleton.mp member
  refine ⟨copies, ?_, ?_⟩
  · rintro ⟨-, deleted, last, flags, -⟩
    have announced : field8 msg.datagram 0 = sapFlagsAnnounce :=
      built_flags sapcSession sapFlagsAnnounce env.time.toInt32 named
    rw [copies deleted (List.mem_of_getLast? last), announced] at flags
    exact absurd flags (by decide)
  · intro past s history gap within elapsed
    have forward : ((sapcTask msg).readings env.start.toNat past).IsChain Forward :=
      within.imp fun _ _ both => both.1
    obtain ⟨spaced, behind, grows⟩ := rounds_spaced (sapcTask msg) history rfl forward
    have first : 1 ≤ s.sent.length := grows
    have rounds : env.start.toNat + (s.sent.length - 1) * 30000000000 ≤
        (sapcTask msg).now env.start.toNat past := Nat.le_trans spaced behind
    have bounded : elapsed < (s.sent.length - 1 + 1) * (30000000000 + gap) :=
      rounds_bounded (sapcTask msg) history rfl (by decide) within fun _ _ skipped => skipped
    rw [Nat.sub_add_cancel first] at bounded
    exact ⟨Nat.le_sub_of_add_le' rounds, bounded⟩

/-- A signal after half a minute: the session has been announced twice. -/
def sampleSapc : SapcRun where
  time := 1311738121
  start := 1000
  first := .sent
  passes := [⟨false, 30000001000, .sent⟩, ⟨true, 30000002000, .sent⟩]

theorem sample_sapc_never_withdraws :
    (sapLoop sapcSession sampleSapc).state.sent.length = 2 ∧
      ¬Lifecycle (sapLoop sapcSession sampleSapc).state.sent :=
  ⟨by decide +kernel, (sapc_never_withdraws sampleSapc).2.1⟩

end AoipCore.Pacing
