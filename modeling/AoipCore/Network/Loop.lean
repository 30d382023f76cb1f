import AoipCore.Network.Branches
import AoipCore.Ptp.SyncLoop
import AoipCore.Sap.Build

/-!
# `network_loop` and `network_cb_run`

The call goes through four parts: the wait for an Announce, the sync phase, the
announcement with the main loop behind it, and the deletion. One variable `ret`
carries the result through all of them. What the environment supplies to a call
is a `NetworkRun`; the call is still running (`none`) when one of its loops has
used up its inputs without leaving.
-/

namespace AoipCore.Network

open ControlLoop AoipCore.Host AoipCore.Timer AoipCore.Ptp AoipCore.Queue AoipCore.Record
  AoipCore.Sap

set_option autoImplicit false

def aoipModeNone : UInt8 := 0
def aoipModePlayback : UInt8 := 1
def aoipModeRecord : UInt8 := 2

def maxDeviceNameSiz : Nat := 32

def timeoutSapTimer : NsTime := 30 * nsSec

/-- The fields of `aoip_ctx_t` that the network thread uses; `queue` and `ptpc`
are as the call finds them. The session name is a string in an array of
`MAX_DEVICE_NAME_SIZ` bytes. `nsToRtpTstamp` is `ns_to_rtp_tstamp`, which
computes with the host's `double`. -/
structure AoipCtx where
  aoipMode : UInt8
  localAddr : UInt32
  sessName : Bytes
  named : (cString sessName).length < maxDeviceNameSiz
  audioFormat : UInt8
  audioSamplingRate : UInt32
  audioChannels : UInt8
  rtpMcastAddr : UInt32
  rtpPacketLength : UInt16
  queue : AoipQueue
  ptpc : PtpcCtx
  nsToRtpTstamp : NsTime → UInt32 → UInt32

def AoipCtx.session (ctx : AoipCtx) (ptpc : PtpcCtx) : Session where
  streamName := ctx.sessName
  localAddr := ctx.localAddr
  rtpMcastAddr := ctx.rtpMcastAddr
  audioFormat := ctx.audioFormat
  audioSamplingRate := ctx.audioSamplingRate
  audioChannels := ctx.audioChannels
  ptpServerId := ptpc.ptpServerId

def aoipBuildSapMsg (ctx : AoipCtx) (ptpc : PtpcCtx) (flags : UInt8) (time : Int64) :
    Option SapMsg :=
  buildSapMsg (ctx.session ptpc) flags time

/-- The result of `sap_send` as an `int`; `EAGAIN` is an error like any other. -/
def sapSend (msg : SapMsg) (outcome : SendResult) : Int32 :=
  if outcome = .sent then msg.len.toUInt32.toInt32 else -1

/-! ## The main loop -/

/-- `rtpSent` and `sapSent` log the datagrams that `sendto` accepted. -/
structure MainState where
  ptp : PtpState
  queue : AoipQueue
  seq : UInt16
  tstamp : UInt32
  ret : Int32
  rtpSent : List Bytes
  sapSent : List Bytes
  deriving DecidableEq

/-- `audio` is what the audio thread made of the queue since the last pass;
`slotTime` is the clock reading stored in a filled slot. -/
structure MainPass where
  stop : Bool
  poll : PtpPoll
  audio : AoipQueue → AoipQueue
  rtpRecv : RecvResult
  slotTime : NsTime
  rtpSend : SendResult
  sapSend : SendResult

inductive MainExit where
  | stopped
  | ptpFailed (failure : PtpFailure)
  | rtpFailed
  | sapFailed
  | timeout
  deriving DecidableEq, Repr

def rtpStage (ctx : AoipCtx) (s : MainState) (pass : MainPass) : MainState × RtpFlow :=
  let queue := pass.audio s.queue
  if ctx.aoipMode = aoipModePlayback then
    let received := playbackBranch ctx.rtpPacketLength queue s.seq pass.rtpRecv pass.slotTime
    ({ s with queue := received.1, seq := received.2 }, .onward)
  else if ctx.aoipMode = aoipModeRecord then
    let fresh := ctx.nsToRtpTstamp (ptpTime s.ptp.sync.now s.ptp.ptpc.ptpOffset)
      ctx.audioSamplingRate
    let result := recordBranch queue s.tstamp fresh pass.rtpSend
    ({ s with
        queue := result.queue
        tstamp := result.tstamp
        rtpSent := s.rtpSent ++ result.sent }, result.flow)
  else ({ s with queue := queue }, .onward)

def withSapTimer (s : PtpState) (timer : NsTime) : PtpState :=
  { s with sync := { s.sync with sapTimeoutTimer := timer } }

def sapStage (msg : SapMsg) (s : MainState) (outcome : SendResult) : Flow MainState MainExit :=
  if nsSub s.ptp.sync.now s.ptp.sync.sapTimeoutTimer ≥ timeoutSapTimer then
    let ret := sapSend msg outcome
    if ret < 0 then .leave .sapFailed { s with ret := ret }
    else .next { s with
      ptp := withSapTimer s.ptp s.ptp.sync.now
      ret := ret
      sapSent := s.sapSent ++ [msg.datagram] }
  else .next s

def timeoutStage (s : MainState) : Flow MainState MainExit :=
  if nsSub s.ptp.sync.now s.ptp.sync.timeoutTimer ≥ timeoutPtpTimer then
    .leave .timeout { s with ret := -1 }
  else .next s

/-- The part of a pass behind the two receivers; `EAGAIN` from the RTP socket
goes on to the next pass at once. -/
def afterPtp (ctx : AoipCtx) (msg : SapMsg) (s : MainState) (pass : MainPass) :
    Flow MainState MainExit :=
  let rtp := rtpStage ctx s pass
  match rtp.2 with
  | .again => .next rtp.1
  | .failed => .leave .rtpFailed { rtp.1 with ret := -1 }
  | .onward =>
      match sapStage msg rtp.1 pass.sapSend with
      | .leave exit s => .leave exit s
      | .next s => timeoutStage s

def mainPass (ctx : AoipCtx) (msg : SapMsg) : Body MainState MainPass MainExit := fun s pass =>
  if pass.stop then .leave .stopped s
  else
    match ptpPass s.ptp pass.poll with
    | .leave failure ptp => .leave (.ptpFailed failure) { s with ptp := ptp, ret := -1 }
    | .next ptp =>
        afterPtp ctx msg { s with ptp := ptp, ret := (generalCall s.ptp pass.poll).ret } pass

def mainStart (ctx : AoipCtx) (ptpc : PtpcCtx) (msg : SapMsg) (now : NsTime) : MainState where
  ptp := withSapTimer (ptpLoopStart ptpc now) now
  queue := ctx.queue
  seq := 0
  tstamp := 0
  ret := sapSend msg .sent
  rtpSent := []
  sapSent := [msg.datagram]

/-! ## The whole call -/

structure NetworkRun where
  announceStart : NsTime
  announce : List AnnouncePass
  syncStart : NsTime
  sync : List SyncPass
  announceTime : Int64
  announceSend : SendResult
  mainStart : NsTime
  main : List MainPass
  deletionTime : Int64
  deletionSend : SendResult

/-- The value returned, the SAP datagrams sent, and how the main loop ended if
it was entered. -/
structure NetworkResult where
  ret : Int32
  sapSent : List Bytes
  main : Option MainExit
  deriving DecidableEq, Repr

def earlyReturn (ret : Int32) : NetworkResult where
  ret := ret
  sapSent := []
  main := none

def sendDeletion (ctx : AoipCtx) (env : NetworkRun) (exit : MainExit) (s : MainState) :
    NetworkResult :=
  match aoipBuildSapMsg ctx s.ptp.ptpc sapFlagsDeletion env.deletionTime with
  | none => { ret := -1, sapSent := s.sapSent, main := some exit }
  | some msg =>
      let ret := sapSend msg env.deletionSend
      if ret < 0 then { ret := ret, sapSent := s.sapSent, main := some exit }
      else { ret := ret, sapSent := s.sapSent ++ [msg.datagram], main := some exit }

def runSession (ctx : AoipCtx) (env : NetworkRun) (ptpc : PtpcCtx) : Option NetworkResult :=
  match aoipBuildSapMsg ctx ptpc sapFlagsAnnounce env.announceTime with
  | none => some (earlyReturn (-1))
  | some msg =>
      if sapSend msg env.announceSend < 0 then
        some (earlyReturn (sapSend msg env.announceSend))
      else
        match run (mainPass ctx msg) (mainStart ctx ptpc msg env.mainStart) env.main with
        | .next _ => none
        | .leave exit s => some (sendDeletion ctx env exit s)

def networkLoop (ctx : AoipCtx) (env : NetworkRun) : Option NetworkResult :=
  match ptpcAnnounceMsgLoop ctx.ptpc env.announceStart env.announce with
  | .next _ => none
  | .leave ret ptpc =>
      if ret < 0 then some (earlyReturn ret)
      else
        match ptpcSyncLoop ptpc env.syncStart env.sync with
        | .next _ => none
        | .leave _ s =>
            if s.ret < 0 then some (earlyReturn s.ret) else runSession ctx env s.ptp.ptpc

def networkCbRun (ctx : AoipCtx) (env : NetworkRun) : Option Int32 :=
  if ctx.aoipMode = aoipModeNone then some 0
  else if ctx.aoipMode = aoipModePlayback ∨ ctx.aoipMode = aoipModeRecord then
    (networkLoop ctx env).map fun result => if result.ret < 0 then -1 else 0
  else some (-1)

/-! ## What a finished call went through -/

theorem sap_send_negative_iff (msg : SapMsg) (outcome : SendResult) :
    sapSend msg outcome < 0 ↔ outcome ≠ .sent := by
  unfold sapSend
  split_ifs with sent
  · have bounded := msg.len.toNat_lt
    have value := MachineInt.to_int32_value msg.len.toUInt32
    have zero : (0 : Int32).toInt = 0 := rfl
    rw [UInt16.toNat_toUInt32, if_pos (by omega)] at value
    rw [Int32.lt_iff_toInt_lt, zero, value]
    simp [sent]
  · simp [sent]

theorem session_named (ctx : AoipCtx) (ptpc : PtpcCtx) :
    (cString (ctx.session ptpc).streamName).length ≤ 31 :=
  Nat.le_of_lt_succ ctx.named

/-- The builder never fails, since the session name fits its array. -/
theorem aoip_build_sap_msg_eq (ctx : AoipCtx) (ptpc : PtpcCtx) (flags : UInt8) (time : Int64) :
    aoipBuildSapMsg ctx ptpc flags time =
      some (sapMsgOf (ctx.session ptpc) flags time.toInt32) :=
  build_sap_msg_eq (ctx.session ptpc) flags time (session_named ctx ptpc)

def announcement (ctx : AoipCtx) (env : NetworkRun) (ptpc : PtpcCtx) : SapMsg :=
  sapMsgOf (ctx.session ptpc) sapFlagsAnnounce env.announceTime.toInt32

def deletion (ctx : AoipCtx) (env : NetworkRun) (ptpc : PtpcCtx) : SapMsg :=
  sapMsgOf (ctx.session ptpc) sapFlagsDeletion env.deletionTime.toInt32

theorem send_deletion_eq (ctx : AoipCtx) (env : NetworkRun) (exit : MainExit) (s : MainState) :
    sendDeletion ctx env exit s =
      { ret := sapSend (deletion ctx env s.ptp.ptpc) env.deletionSend
        sapSent := s.sapSent ++
          if env.deletionSend = .sent then [(deletion ctx env s.ptp.ptpc).datagram] else []
        main := some exit } := by
  have negative := sap_send_negative_iff (deletion ctx env s.ptp.ptpc) env.deletionSend
  have built : aoipBuildSapMsg ctx s.ptp.ptpc sapFlagsDeletion env.deletionTime =
      some (deletion ctx env s.ptp.ptpc) := aoip_build_sap_msg_eq ctx s.ptp.ptpc _ _
  by_cases sent : env.deletionSend = .sent
  · have returned : ¬sapSend (deletion ctx env s.ptp.ptpc) env.deletionSend < 0 := by
      rw [negative]
      exact not_not.mpr sent
    -- The equation lemma would be stated through the builder.
    delta sendDeletion
    simp only [built, if_neg returned, if_pos sent]
  · delta sendDeletion
    simp only [built, if_pos (negative.mpr sent), if_neg sent, List.append_nil]

theorem run_session_unsent (ctx : AoipCtx) {env : NetworkRun} (ptpc : PtpcCtx)
    (unsent : env.announceSend ≠ .sent) :
    ∃ ret, ret < 0 ∧ runSession ctx env ptpc = some (earlyReturn ret) := by
  have negative := (sap_send_negative_iff (announcement ctx env ptpc) env.announceSend).mpr unsent
  have built : aoipBuildSapMsg ctx ptpc sapFlagsAnnounce env.announceTime =
      some (announcement ctx env ptpc) := aoip_build_sap_msg_eq ctx ptpc _ _
  refine ⟨_, negative, ?_⟩
  delta runSession
  simp only [built, if_pos negative]

/-- Once the announcement is sent, a finished call has run the main loop to an
exit and then the deletion. -/
theorem run_session_sent {ctx : AoipCtx} {env : NetworkRun} {ptpc : PtpcCtx}
    {result : NetworkResult} (finished : runSession ctx env ptpc = some result)
    (announced : env.announceSend = .sent) :
    ∃ exit s, run (mainPass ctx (announcement ctx env ptpc))
        (mainStart ctx ptpc (announcement ctx env ptpc) env.mainStart) env.main =
          .leave exit s ∧
      result = sendDeletion ctx env exit s := by
  have sent : ¬sapSend (announcement ctx env ptpc) env.announceSend < 0 := by
    rw [sap_send_negative_iff]
    exact not_not.mpr announced
  have built : aoipBuildSapMsg ctx ptpc sapFlagsAnnounce env.announceTime =
      some (announcement ctx env ptpc) := aoip_build_sap_msg_eq ctx ptpc _ _
  delta runSession at finished
  simp only [built, if_neg sent] at finished
  cases outcome : run (mainPass ctx (announcement ctx env ptpc))
      (mainStart ctx ptpc (announcement ctx env ptpc) env.mainStart) env.main with
  | next s => simp [outcome] at finished
  | leave exit s =>
      simp only [outcome] at finished
      exact ⟨exit, s, rfl, (Option.some.inj finished).symm⟩

/-- One of the two PTP phases returns a negative value. -/
def PhaseFailed (ctx : AoipCtx) (env : NetworkRun) : Prop :=
  ∃ ret ptpc, ptpcAnnounceMsgLoop ctx.ptpc env.announceStart env.announce = .leave ret ptpc ∧
    (ret < 0 ∨
      ∃ exit s, ptpcSyncLoop ptpc env.syncStart env.sync = .leave exit s ∧ s.ret < 0)

theorem phase_failed_returns {ctx : AoipCtx} {env : NetworkRun} (failed : PhaseFailed ctx env) :
    ∃ ret, ret < 0 ∧ networkLoop ctx env = some (earlyReturn ret) := by
  obtain ⟨ret, ptpc, heard, silent | ⟨exit, s, left, unsynced⟩⟩ := failed
  · exact ⟨ret, silent, by simp only [networkLoop, heard, if_pos silent]⟩
  · by_cases silent : ret < 0
    · exact ⟨ret, silent, by simp only [networkLoop, heard, if_pos silent]⟩
    · refine ⟨s.ret, unsynced, ?_⟩
      simp only [networkLoop, heard, if_neg silent, left, if_pos unsynced]

theorem network_loop_session {ctx : AoipCtx} {env : NetworkRun} {result : NetworkResult}
    (finished : networkLoop ctx env = some result) (passed : ¬PhaseFailed ctx env) :
    ∃ ptpc, runSession ctx env ptpc = some result := by
  unfold networkLoop at finished
  cases heard : ptpcAnnounceMsgLoop ctx.ptpc env.announceStart env.announce with
  | next ptpc => simp [heard] at finished
  | leave ret ptpc =>
      have audible : ¬ret < 0 := by
        intro silent
        exact passed ⟨ret, ptpc, heard, .inl silent⟩
      simp only [heard, if_neg audible] at finished
      cases left : ptpcSyncLoop ptpc env.syncStart env.sync with
      | next s => simp [left] at finished
      | leave exit s =>
          have synced : ¬s.ret < 0 := by
            intro unsynced
            exact passed ⟨ret, ptpc, heard, .inr ⟨exit, s, left, unsynced⟩⟩
          simp only [left, if_neg synced] at finished
          exact ⟨s.ptp.ptpc, finished⟩

theorem network_loop_entered {ctx : AoipCtx} {env : NetworkRun} {result : NetworkResult}
    (finished : networkLoop ctx env = some result) (entered : result.main ≠ none) :
    ∃ exit s, result = sendDeletion ctx env exit s := by
  have early : ∀ ret, result ≠ earlyReturn ret := by
    rintro ret rfl
    exact entered rfl
  by_cases failed : PhaseFailed ctx env
  · obtain ⟨ret, -, returned⟩ := phase_failed_returns failed
    rw [finished] at returned
    exact absurd (Option.some.inj returned) (early ret)
  · obtain ⟨ptpc, session⟩ := network_loop_session finished failed
    by_cases announced : env.announceSend = .sent
    · obtain ⟨exit, s, -, deleted⟩ := run_session_sent session announced
      exact ⟨exit, s, deleted⟩
    · obtain ⟨ret, -, returned⟩ := run_session_unsent ctx ptpc announced
      rw [session] at returned
      exact absurd (Option.some.inj returned) (early ret)

/-! ## The main loop runs the PTP passes

`sap_timeout_timer` is the one field of `sync` in which the main loop differs
from a PTP loop; no receiver reads or writes it. -/

theorem parsed_with_sap_timer (s : PtpState) (timer : NsTime) (poll : PtpPoll) :
    parsed (withSapTimer s timer) poll = withSapTimer (parsed s poll) timer := by
  have accepts : acceptsSync (withSapTimer s timer) poll = acceptsSync s poll := rfl
  unfold parsed syncAfterEvent
  rw [accepts]
  cases acceptsSync s poll with
  | true => rfl
  | false => rfl

theorem general_call_with_sap_timer (s : PtpState) (timer : NsTime) (poll : PtpPoll) :
    generalCall (withSapTimer s timer) poll =
      { generalCall s poll with
        state := withSapTimer (generalCall s poll).state timer } := by
  have kind : generalKind (withSapTimer s timer) poll = generalKind s poll := by
    unfold generalKind
    rw [parsed_with_sap_timer]
    rfl
  rw [general_call_eq, general_call_eq, kind, parsed_with_sap_timer]
  generalize parsed s poll = p
  cases generalKind s poll with
  | ignored => rfl
  | failed => rfl
  | reset => rfl
  | newServer => rfl
  | followUp =>
      cases poll.send with
      | sent => rfl
      | again => rfl
      | failed => rfl
  | delayResp => rfl

theorem ptp_pass_with_sap_timer {s next : PtpState} {poll : PtpPoll} (timer : NsTime)
    (step : ptpPass s poll = .next next) :
    ptpPass (withSapTimer s timer) poll = .next (withSapTimer next timer) := by
  obtain ⟨event, general, rfl⟩ := pass_falls_through s next poll step
  rw [ptpPass, general_call_with_sap_timer, if_neg general, if_neg]
  rwa [sync_call_negative]

/-! What the three parts of a pass leave alone. -/

theorem rtp_stage_keeps (ctx : AoipCtx) (s : MainState) (pass : MainPass) :
    (rtpStage ctx s pass).1.ptp = s.ptp ∧ (rtpStage ctx s pass).1.sapSent = s.sapSent := by
  unfold rtpStage
  dsimp only
  split_ifs <;> exact ⟨rfl, rfl⟩

theorem sap_stage_sent (msg : SapMsg) (s : MainState) (outcome : SendResult) :
    (sapStage msg s outcome).state.sapSent = s.sapSent ∨
      (sapStage msg s outcome).state.sapSent = s.sapSent ++ [msg.datagram] := by
  unfold sapStage
  dsimp only
  split_ifs
  · exact .inl rfl
  · exact .inr rfl
  · exact .inl rfl

theorem sap_stage_ptp {msg : SapMsg} {s next : MainState} {outcome : SendResult}
    (step : sapStage msg s outcome = .next next) :
    ∃ timer, next.ptp = withSapTimer s.ptp timer := by
  unfold sapStage at step
  dsimp only at step
  split_ifs at step
  · obtain rfl := Flow.next.inj step
    exact ⟨s.ptp.sync.now, rfl⟩
  · obtain rfl := Flow.next.inj step
    exact ⟨s.ptp.sync.sapTimeoutTimer, rfl⟩

theorem timeout_stage_falls_through {s next : MainState} (step : timeoutStage s = .next next) :
    next = s ∧ nsSub s.ptp.sync.now s.ptp.sync.timeoutTimer < timeoutPtpTimer := by
  unfold timeoutStage at step
  split_ifs at step with expired
  exact ⟨(Flow.next.inj step).symm, UInt64.not_le.mp expired⟩

theorem timeout_stage_sent (s : MainState) : (timeoutStage s).state.sapSent = s.sapSent := by
  unfold timeoutStage
  split_ifs <;> rfl

theorem after_ptp_sent (ctx : AoipCtx) (msg : SapMsg) (s : MainState) (pass : MainPass) :
    (afterPtp ctx msg s pass).state.sapSent = s.sapSent ∨
      (afterPtp ctx msg s pass).state.sapSent = s.sapSent ++ [msg.datagram] := by
  have kept := (rtp_stage_keeps ctx s pass).2
  unfold afterPtp
  dsimp only
  cases (rtpStage ctx s pass).2 with
  | again => exact .inl kept
  | failed => exact .inl kept
  | onward =>
      have sent := sap_stage_sent msg (rtpStage ctx s pass).1 pass.sapSend
      rw [kept] at sent
      cases outcome : sapStage msg (rtpStage ctx s pass).1 pass.sapSend with
      | leave exit final =>
          rw [outcome] at sent
          exact sent
      | next following =>
          rw [outcome] at sent
          dsimp only
          rw [timeout_stage_sent]
          exact sent

/-- The rest of the body goes on to the next pass from the RTP branch at once, or
behind both timers. -/
theorem after_ptp_next {ctx : AoipCtx} {msg : SapMsg} {s next : MainState} {pass : MainPass}
    (step : afterPtp ctx msg s pass = .next next) :
    ((rtpStage ctx s pass).2 = .again ∧ next = (rtpStage ctx s pass).1) ∨
      ((rtpStage ctx s pass).2 = .onward ∧
        sapStage msg (rtpStage ctx s pass).1 pass.sapSend = .next next ∧
        nsSub next.ptp.sync.now next.ptp.sync.timeoutTimer < timeoutPtpTimer) := by
  unfold afterPtp at step
  dsimp only at step
  cases flow : (rtpStage ctx s pass).2 with
  | again =>
      simp only [flow] at step
      exact .inl ⟨rfl, (Flow.next.inj step).symm⟩
  | failed => simp [flow] at step
  | onward =>
      cases outcome : sapStage msg (rtpStage ctx s pass).1 pass.sapSend with
      | leave exit final => simp [flow, outcome] at step
      | next following =>
          simp only [flow, outcome] at step
          obtain ⟨rfl, early⟩ := timeout_stage_falls_through step
          exact .inr ⟨rfl, rfl, early⟩

/-- The timeout exit is taken at the timer that the receivers left. -/
theorem after_ptp_timeout {ctx : AoipCtx} {msg : SapMsg} {s final : MainState} {pass : MainPass}
    (step : afterPtp ctx msg s pass = .leave .timeout final) :
    timeoutPtpTimer ≤ nsSub s.ptp.sync.now s.ptp.sync.timeoutTimer := by
  have kept := (rtp_stage_keeps ctx s pass).1
  unfold afterPtp at step
  dsimp only at step
  cases flow : (rtpStage ctx s pass).2 with
  | again => simp [flow] at step
  | failed => simp [flow] at step
  | onward =>
      cases outcome : sapStage msg (rtpStage ctx s pass).1 pass.sapSend with
      | leave exit left =>
          simp only [flow, outcome] at step
          cases step
          unfold sapStage at outcome
          dsimp only at outcome
          split_ifs at outcome
          cases outcome
      | next following =>
          obtain ⟨timer, updated⟩ := sap_stage_ptp outcome
          simp only [flow, outcome] at step
          unfold timeoutStage at step
          split_ifs at step with expired
          rw [updated, kept] at expired
          exact expired

theorem after_ptp_ptp {ctx : AoipCtx} {msg : SapMsg} {s next : MainState} {pass : MainPass}
    (step : afterPtp ctx msg s pass = .next next) :
    ∃ timer, next.ptp = withSapTimer s.ptp timer := by
  have kept := (rtp_stage_keeps ctx s pass).1
  rcases after_ptp_next step with ⟨-, again⟩ | ⟨-, announced, -⟩
  · rw [again, kept]
    exact ⟨s.ptp.sync.sapTimeoutTimer, rfl⟩
  · rw [← kept]
    exact sap_stage_ptp announced

theorem main_pass_sent (ctx : AoipCtx) (msg : SapMsg) (s : MainState) (pass : MainPass) :
    (mainPass ctx msg s pass).state.sapSent = s.sapSent ∨
      (mainPass ctx msg s pass).state.sapSent = s.sapSent ++ [msg.datagram] := by
  unfold mainPass
  split_ifs
  · exact .inl rfl
  · cases ptpPass s.ptp pass.poll with
    | leave failure ptp => exact .inl rfl
    | next ptp => exact after_ptp_sent ctx msg _ pass

def received (s : MainState) (pass : MainPass) (ptp : PtpState) : MainState :=
  { s with ptp := ptp, ret := (generalCall s.ptp pass.poll).ret }

theorem main_pass_next {ctx : AoipCtx} {msg : SapMsg} {s next : MainState} {pass : MainPass}
    (step : mainPass ctx msg s pass = .next next) :
    ∃ ptp, ptpPass s.ptp pass.poll = .next ptp ∧
      afterPtp ctx msg (received s pass ptp) pass = .next next := by
  unfold mainPass at step
  split_ifs at step
  cases passed : ptpPass s.ptp pass.poll with
  | leave failure ptp => simp [passed] at step
  | next ptp =>
      simp only [passed] at step
      exact ⟨ptp, rfl, step⟩

theorem main_pass_again {ctx : AoipCtx} {msg : SapMsg} {s : MainState} {pass : MainPass}
    {ptp : PtpState} (running : pass.stop = false)
    (passed : ptpPass s.ptp pass.poll = .next ptp)
    (blocked : (rtpStage ctx (received s pass ptp) pass).2 = .again) :
    mainPass ctx msg s pass = .next (rtpStage ctx (received s pass ptp) pass).1 := by
  unfold received at blocked ⊢
  simp only [mainPass, running, if_neg Bool.false_ne_true, passed, afterPtp, blocked]

theorem main_pass_ptp {ctx : AoipCtx} {msg : SapMsg} {s next : MainState} {pass : MainPass}
    (step : mainPass ctx msg s pass = .next next) :
    ∃ ptp timer, ptpPass s.ptp pass.poll = .next ptp ∧
      next.ptp = withSapTimer ptp timer := by
  obtain ⟨ptp, passed, behind⟩ := main_pass_next step
  obtain ⟨timer, updated⟩ := after_ptp_ptp behind
  exact ⟨ptp, timer, passed, updated⟩

theorem main_pass_timeout {ctx : AoipCtx} {msg : SapMsg} {s final : MainState} {pass : MainPass}
    (step : mainPass ctx msg s pass = .leave .timeout final) :
    ∃ ptp, ptpPass s.ptp pass.poll = .next ptp ∧
      timeoutPtpTimer ≤ nsSub ptp.sync.now ptp.sync.timeoutTimer := by
  unfold mainPass at step
  split_ifs at step
  · cases step
  cases passed : ptpPass s.ptp pass.poll with
  | leave failure ptp => simp [passed] at step
  | next ptp =>
      simp only [passed] at step
      have expired := after_ptp_timeout step
      dsimp only at expired
      exact ⟨ptp, rfl, expired⟩

theorem main_history_ptp {ctx : AoipCtx} {ptpc : PtpcCtx} {msg : SapMsg} {start : NsTime}
    {past : List (MainState × MainPass)} {s : MainState}
    (history : History (mainPass ctx msg) (mainStart ctx ptpc msg start) past s) :
    History ptpPass (ptpLoopStart ptpc start)
      (past.map (Prod.map (fun s => withSapTimer s.ptp 0) MainPass.poll))
      (withSapTimer s.ptp 0) := by
  apply history_project (fun s : MainState => withSapTimer s.ptp 0) MainPass.poll _ history
  intro s pass next step
  obtain ⟨ptp, timer, passed, updated⟩ := main_pass_ptp step
  have overwritten : withSapTimer (withSapTimer ptp timer) 0 =
      withSapTimer ptp 0 := rfl
  rw [updated, overwritten]
  exact ptp_pass_with_sap_timer 0 passed

end AoipCore.Network
