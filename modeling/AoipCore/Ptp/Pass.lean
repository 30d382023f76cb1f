import AoipCore.Library.ControlLoop
import AoipCore.Ptp.Client

/-!
# One pass of a PTP loop

`ptpc_sync_loop` and the main loop of `network_loop` both read the clock, call
`ptpc_recv_sync_msg` and then `ptpc_recv_general_packet`, and leave when either
call is negative. `ptpPass` is that common part. `after_sync_eq` and
`general_call_eq` say once what the two calls can do; every later fact about a
run is derived from them.
-/

namespace AoipCore.Ptp

open ByteBuffer ControlLoop AoipCore.Host AoipCore.Timer

set_option autoImplicit false

/-- What the environment supplies to one pass: the reading of `sync.now`, the
reading and the datagram of `ptpc_recv_sync_msg`, then the datagram, the
outcome of `sendto` and the reading of `ptpc_recv_general_packet`. -/
structure PtpPoll where
  now : NsTime
  t2 : NsTime
  event : RecvResult
  general : RecvResult
  send : SendResult
  t3 : NsTime
  deriving DecidableEq, Repr

abbrev PtpPassed := PtpState × PtpPoll

def PtpState.tick (s : PtpState) (now : NsTime) : PtpState :=
  { s with sync := { s.sync with now := now } }

def syncCall (s : PtpState) (poll : PtpPoll) : Int32 × PtpState :=
  ptpcRecvSyncMsg (s.tick poll.now) poll.t2 poll.event

def afterSync (s : PtpState) (poll : PtpPoll) : PtpState := (syncCall s poll).2

def generalCall (s : PtpState) (poll : PtpPoll) : GeneralCall :=
  ptpcRecvGeneralPacket (afterSync s poll) poll.general poll.send poll.t3

inductive PtpFailure where
  | recvSyncMsg
  | recvGeneralPacket
  deriving DecidableEq, Repr

def ptpPass : Body PtpState PtpPoll PtpFailure := fun s poll =>
  if (syncCall s poll).1 < 0 then .leave .recvSyncMsg (afterSync s poll)
  else if (generalCall s poll).ret < 0 then .leave .recvGeneralPacket (generalCall s poll).state
  else .next (generalCall s poll).state

/-- The state in which a PTP loop starts: a zeroed `sync` whose timers hold
the first clock reading. -/
def ptpLoopStart (ptpc : PtpcCtx) (now : NsTime) : PtpState where
  ptpc := ptpc
  sync := { zeroSync with now := now, timeoutTimer := now }

def eventBuf (s : PtpState) (poll : PtpPoll) : PacketBuf :=
  match poll.event with
  | .datagram bytes => s.ptpc.rxbuf.receive bytes
  | _ => s.ptpc.rxbuf

def acceptsSync (s : PtpState) (poll : PtpPoll) : Bool :=
  match poll.event with
  | .datagram _ => decide (s.sync.state = .sInit ∧ isSync (eventBuf s poll).bytes)
  | _ => false

def syncAfterEvent (s : PtpState) (poll : PtpPoll) : PtpcSyncCtx :=
  if acceptsSync s poll then
    { s.sync with
      now := poll.now
      t2 := poll.t2
      seqid := seqid (eventBuf s poll).bytes
      state := .sSync
      timeoutTimer := poll.now }
  else { s.sync with now := poll.now, t2 := poll.t2 }

theorem after_sync_eq (s : PtpState) (poll : PtpPoll) :
    afterSync s poll =
      { ptpc := { s.ptpc with rxbuf := eventBuf s poll }
        sync := syncAfterEvent s poll } := by
  unfold afterSync syncCall ptpcRecvSyncMsg syncAfterEvent acceptsSync eventBuf
  cases poll.event with
  | again => rfl
  | failed => rfl
  | datagram bytes =>
      by_cases initial : s.sync.state = .sInit
      · by_cases sync : isSync (s.ptpc.rxbuf.receive bytes).bytes
        · simp [PtpState.tick, PtpcCtx.receive, initial, sync]
        · simp [PtpState.tick, PtpcCtx.receive, initial, sync]
      · simp [PtpState.tick, PtpcCtx.receive, initial]

theorem sync_call_negative (s : PtpState) (poll : PtpPoll) :
    (syncCall s poll).1 < 0 ↔ poll.event = .failed := by
  unfold syncCall ptpcRecvSyncMsg
  cases event : poll.event with
  | again => simp
  | failed => simp
  | datagram bytes => dsimp only; split_ifs <;> simp

/-! The general message, if one was received, is parsed from the buffer that
the event message may have filled before it. -/

def generalBuf (s : PtpState) (poll : PtpPoll) : PacketBuf :=
  match poll.general with
  | .datagram bytes => (eventBuf s poll).receive bytes
  | _ => eventBuf s poll

def parsed (s : PtpState) (poll : PtpPoll) : PtpState where
  ptpc := { s.ptpc with rxbuf := generalBuf s poll }
  sync := syncAfterEvent s poll

inductive GeneralKind where
  | ignored
  | failed
  | reset
  | newServer
  | followUp
  | delayResp
  deriving DecidableEq, Repr

def classify (s : PtpState) : GeneralKind :=
  let msg := s.ptpc.rxbuf.bytes
  if ver msg ≠ 2 ∨ ndomain msg ≠ 0 then .ignored
  else if seqid msg ≠ s.sync.seqid then .reset
  else if clockId msg ≠ s.ptpc.ptpServerId then .newServer
  else if s.sync.state = .sSync ∧ msgtype msg = ptpMsgidFollowUp then .followUp
  else if s.sync.state = .sFollowUp ∧ msgtype msg = ptpMsgidDelayResp then .delayResp
  else .ignored

def generalKind (s : PtpState) (poll : PtpPoll) : GeneralKind :=
  match poll.general with
  | .again => .ignored
  | .failed => .failed
  | .datagram _ => classify (parsed s poll)

def resetCall (s : PtpState) : GeneralCall where
  ret := 0
  state := { s with sync := { ptpSyncStateReset s.sync with timeoutTimer := s.sync.now } }
  request := none

theorem handle_general_eq (s : PtpState) (send : SendResult) (t3 : NsTime) :
    handleGeneral s send t3 =
      match classify s with
      | .ignored => ⟨0, s, none⟩
      | .failed => ⟨-1, s, none⟩
      | .reset => resetCall s
      | .newServer => ⟨-1, s, none⟩
      | .followUp => acceptFollowUp s send t3
      | .delayResp => acceptDelayResp s := by
  unfold handleGeneral classify
  dsimp only
  split_ifs <;> rfl

theorem general_call_eq (s : PtpState) (poll : PtpPoll) :
    generalCall s poll =
      match generalKind s poll with
      | .ignored => ⟨0, parsed s poll, none⟩
      | .failed => ⟨-1, parsed s poll, none⟩
      | .reset => resetCall (parsed s poll)
      | .newServer => ⟨-1, parsed s poll, none⟩
      | .followUp => acceptFollowUp (parsed s poll) poll.send poll.t3
      | .delayResp => acceptDelayResp (parsed s poll) := by
  unfold generalCall ptpcRecvGeneralPacket generalKind
  rw [after_sync_eq]
  cases general : poll.general with
  | again => simp [parsed, generalBuf, general]
  | failed => simp [parsed, generalBuf, general]
  | datagram bytes =>
      have received : (⟨{ s.ptpc with rxbuf := eventBuf s poll }.receive bytes,
          syncAfterEvent s poll⟩ : PtpState) = parsed s poll := by
        simp [parsed, generalBuf, general, PtpcCtx.receive]
      dsimp only
      rw [received, handle_general_eq]

/-- What the Follow_Up branch writes before the outcome of `sendto` is known. -/
def followUpSync (s : PtpState) : PtpcSyncCtx :=
  { s.sync with t1 := tstampToNs (tstamp s.ptpc.rxbuf.bytes) }

def delayReqBuf (s : PtpState) : PacketBuf := buildPtpDelayReqMsg (followUpSync s) s.ptpc.txbuf

theorem accept_follow_up_eq (s : PtpState) (send : SendResult) (t3 : NsTime) :
    acceptFollowUp s send t3 =
      { ret := if send = .failed then -1 else 0
        state :=
          { ptpc := { s.ptpc with txbuf := delayReqBuf s }
            sync :=
              if send = .failed then followUpSync s
              else { followUpSync s with
                t3 := t3
                state := .sFollowUp
                timeoutTimer := s.sync.now } }
        request := some ((delayReqBuf s).bytes.take ptpDelayReqSize) } := by
  cases send with
  | sent => rfl
  | again => rfl
  | failed => rfl

/-! The decoded timestamps stay folded below: each field of the two updated
contexts is read off by a lemma, never by unfolding the update in place. -/

theorem follow_up_sync_fields (s : PtpState) :
    (followUpSync s).seqid = s.sync.seqid ∧ (followUpSync s).state = s.sync.state ∧
      (followUpSync s).syncedCount = s.sync.syncedCount ∧
      (followUpSync s).timeoutTimer = s.sync.timeoutTimer := by
  obtain ⟨ptpc, sync⟩ := s
  cases sync
  exact ⟨rfl, rfl, rfl, rfl⟩

theorem follow_up_sync_t1 (s : PtpState) :
    (followUpSync s).t1 = tstampToNs (tstamp s.ptpc.rxbuf.bytes) := rfl

def delayRespSync (s : PtpState) : PtpcSyncCtx :=
  { s.sync with t4 := tstampToNs (tstamp s.ptpc.rxbuf.bytes) }

theorem delay_resp_sync_fields (s : PtpState) :
    (delayRespSync s).seqid = s.sync.seqid ∧ (delayRespSync s).state = s.sync.state ∧
      (delayRespSync s).syncedCount = s.sync.syncedCount ∧
      (delayRespSync s).t1 = s.sync.t1 ∧ (delayRespSync s).t3 = s.sync.t3 := by
  obtain ⟨ptpc, sync⟩ := s
  cases sync
  exact ⟨rfl, rfl, rfl, rfl, rfl⟩

theorem accept_delay_resp_eq (s : PtpState) :
    acceptDelayResp s =
      { ret := 0
        state :=
          { ptpc := updateMeanPathDelay s.ptpc (delayRespSync s)
            sync := { delayRespSync s with
              syncedCount := (delayRespSync s).syncedCount + 1
              timeoutTimer := s.sync.now } }
        request := none } := rfl

theorem update_keeps (ctx : PtpcCtx) (sync : PtpcSyncCtx) :
    (updateMeanPathDelay ctx sync).ptpServerId = ctx.ptpServerId ∧
      (updateMeanPathDelay ctx sync).serverAddr = ctx.serverAddr ∧
      (updateMeanPathDelay ctx sync).rxbuf = ctx.rxbuf := by
  obtain ⟨addr, id, delay, offset, txbuf, rxbuf⟩ := ctx
  unfold updateMeanPathDelay
  dsimp only
  split_ifs <;> exact ⟨rfl, rfl, rfl⟩

/-- Everything the tests of an accepted message establish. -/
structure Matches (s : PtpState) (msg : Bytes) : Prop where
  version : ver msg = 2
  domain : ndomain msg = 0
  sequence : seqid msg = s.sync.seqid
  clock : clockId msg = s.ptpc.ptpServerId

theorem classify_follow_up (s : PtpState) (accepted : classify s = .followUp) :
    Matches s s.ptpc.rxbuf.bytes ∧ s.sync.state = .sSync ∧
      msgtype s.ptpc.rxbuf.bytes = ptpMsgidFollowUp := by
  unfold classify at accepted
  dsimp only at accepted
  split_ifs at accepted with header sequence clock branch
  push Not at header sequence clock
  exact ⟨⟨header.1, header.2, sequence, clock⟩, branch⟩

theorem classify_delay_resp (s : PtpState) (accepted : classify s = .delayResp) :
    Matches s s.ptpc.rxbuf.bytes ∧ s.sync.state = .sFollowUp ∧
      msgtype s.ptpc.rxbuf.bytes = ptpMsgidDelayResp := by
  unfold classify at accepted
  dsimp only at accepted
  split_ifs at accepted with header sequence clock other branch
  push Not at header sequence clock
  exact ⟨⟨header.1, header.2, sequence, clock⟩, branch⟩

theorem kind_is_classified (s : PtpState) (poll : PtpPoll)
    (accepted : generalKind s poll = .followUp ∨ generalKind s poll = .delayResp) :
    generalKind s poll = classify (parsed s poll) := by
  unfold generalKind at accepted ⊢
  cases general : poll.general with
  | again => simp [general] at accepted
  | failed => simp [general] at accepted
  | datagram bytes => rfl

/-! The passes in which `ptpc_recv_general_packet` runs and takes one of the
two branches that carry an exchange forward. -/

def acceptsFollowUp (s : PtpState) (poll : PtpPoll) : Bool :=
  decide (poll.event ≠ .failed ∧ generalKind s poll = .followUp)

def acceptsDelayResp (s : PtpState) (poll : PtpPoll) : Bool :=
  decide (poll.event ≠ .failed ∧ generalKind s poll = .delayResp)

theorem pass_falls_through (s next : PtpState) (poll : PtpPoll)
    (step : ptpPass s poll = .next next) :
    poll.event ≠ .failed ∧ ¬(generalCall s poll).ret < 0 ∧ next = (generalCall s poll).state := by
  unfold ptpPass at step
  split_ifs at step with event general
  rw [sync_call_negative] at event
  exact ⟨event, general, (Flow.next.inj step).symm⟩

end AoipCore.Ptp
