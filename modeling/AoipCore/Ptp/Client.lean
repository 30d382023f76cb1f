import AoipCore.Timer

/-!
# The PTP client (`ptp.h`, `ptpc.h`, `ptpc.c`)

The receivers share one buffer and overlay the message union on it, so every
header field is read from the buffer as it stands after `recv`, whether or not
the datagram just received reached that far. Clock readings, received
datagrams and the outcome of `sendto` are arguments.
-/

namespace AoipCore.Ptp

open ByteBuffer AoipCore.Host AoipCore.Timer

set_option autoImplicit false

def ptpMsgidSync : UInt8 := 0x0
def ptpMsgidDelayReq : UInt8 := 0x1
def ptpMsgidFollowUp : UInt8 := 0x8
def ptpMsgidDelayResp : UInt8 := 0x9
def ptpMsgidAnnounce : UInt8 := 0xb

def ptpFlagTwoStep : UInt16 := (1 : UInt16) <<< 1
def ptpFlagUnicast : UInt16 := (1 : UInt16) <<< 2

def timeoutPtpAnnounceTimer : NsTime := 3 * nsSec
def timeoutPtpTimer : NsTime := 2 * nsSec

def ptpPacketBufSize : Nat := 256

/-- `sizeof(ptp_delay_req_t)`: the 34-byte header and a 10-byte timestamp. -/
def ptpDelayReqSize : Nat := 44

/-! `struct ptp_common_hdr` on a little-endian host, bit fields included. -/

def msgtype (msg : Bytes) : UInt8 := field8 msg 0 &&& 0x0f
def ver (msg : Bytes) : UInt8 := field8 msg 1 &&& 0x0f
def ndomain (msg : Bytes) : UInt8 := field8 msg 4
def flag (msg : Bytes) : UInt16 := field16 msg 6
def clockId (msg : Bytes) : UInt64 := field64 msg 20
def seqid (msg : Bytes) : UInt16 := field16 msg 30

def tstamp (msg : Bytes) : Timestamp := timestampAt msg 34

def flagIsSet (flg bit : UInt16) : Bool := flg &&& bit != 0

inductive PtpSyncState where
  | sInit
  | sSync
  | sFollowUp
  deriving DecidableEq, Repr

/-- A packet buffer of the caller, at least as long as the limit given to
`recv`. -/
structure PacketBuf where
  bytes : Bytes
  room : ptpPacketBufSize ≤ bytes.length
  deriving DecidableEq

def PacketBuf.put (buf : PacketBuf) (offset : Nat) (items : Bytes) : PacketBuf where
  bytes := writeAt buf.bytes offset items
  room := by rw [write_at_length]; exact buf.room

def PacketBuf.put16 (buf : PacketBuf) (offset : Nat) (value : UInt16) : PacketBuf :=
  buf.put offset (littleBytes 2 value.toNat)

def PacketBuf.receive (buf : PacketBuf) (datagram : Bytes) : PacketBuf :=
  buf.put 0 (datagram.take ptpPacketBufSize)

def PacketBuf.zero : PacketBuf where
  bytes := List.replicate ptpPacketBufSize 0
  room := by rw [List.length_replicate]

/-- The fields of `ptpc_ctx_t` that the message handlers use. -/
structure PtpcCtx where
  serverAddr : UInt32
  ptpServerId : UInt64
  meanPathDelay : Int64
  ptpOffset : Int64
  txbuf : PacketBuf
  rxbuf : PacketBuf
  deriving DecidableEq

structure PtpcSyncCtx where
  state : PtpSyncState
  syncedCount : UInt8
  seqid : UInt16
  now : NsTime
  timeoutTimer : NsTime
  sapTimeoutTimer : NsTime
  t1 : NsTime
  t2 : NsTime
  t3 : NsTime
  t4 : NsTime
  deriving DecidableEq, Repr

structure PtpState where
  ptpc : PtpcCtx
  sync : PtpcSyncCtx
  deriving DecidableEq

/-- `ptpc_sync_ctx_t sync = {0}`, whose zero state is `S_INIT`. -/
def zeroSync : PtpcSyncCtx where
  state := .sInit
  syncedCount := 0
  seqid := 0
  now := 0
  timeoutTimer := 0
  sapTimeoutTimer := 0
  t1 := 0
  t2 := 0
  t3 := 0
  t4 := 0

def ptpSyncStateReset (sync : PtpcSyncCtx) : PtpcSyncCtx :=
  { sync with t1 := 0, t2 := 0, t3 := 0, t4 := 0, state := .sInit }

def ptpMeanPathDelay (sync : PtpcSyncCtx) : Int64 :=
  let d1 := sync.t2.toInt64 - sync.t3.toInt64
  let d2 := sync.t4.toInt64 - sync.t1.toInt64
  (d1 + d2) / 2

/-- The subtraction is unsigned; only the result is read as signed. -/
def ptpOffset (ctx : PtpcCtx) (sync : PtpcSyncCtx) : Int64 :=
  (sync.t2 - sync.t1 - ctx.meanPathDelay.toUInt64).toInt64

def ptpTime (ts : NsTime) (offset : Int64) : NsTime := ts - offset.toUInt64

/-- Clears the message and sets type, version, sequence id and length; the
sequence id is copied without a byte swap, as it was read. -/
def buildPtpDelayReqMsg (sync : PtpcSyncCtx) (msg : PacketBuf) : PacketBuf :=
  let msg := msg.put 0 (List.replicate ptpDelayReqSize 0)
  let msg := msg.put 0 [ptpMsgidDelayReq]
  let msg := msg.put 1 [2]
  let msg := msg.put16 30 sync.seqid
  msg.put16 2 (htons (UInt16.ofNat ptpDelayReqSize))

def PtpcCtx.receive (ctx : PtpcCtx) (datagram : Bytes) : PtpcCtx :=
  { ctx with rxbuf := ctx.rxbuf.receive datagram }

/-- `recvfrom` returning zero is not parsed, unlike in the other receivers. -/
def ptpcRecvAnnounceMsg (ctx : PtpcCtx) (general : RecvResult) (sender : UInt32) :
    Int32 × PtpcCtx :=
  match general with
  | .again => (0, ctx)
  | .failed => (0, ctx)
  | .datagram bytes =>
      let ctx := ctx.receive bytes
      let msg := ctx.rxbuf.bytes
      if bytes = [] then (0, ctx)
      else if ver msg = 2 ∧ ndomain msg = 0 ∧ msgtype msg = ptpMsgidAnnounce then
        if flagIsSet (flag msg) ptpFlagTwoStep && !flagIsSet (flag msg) ptpFlagUnicast then
          (1, { ctx with serverAddr := sender, ptpServerId := clockId msg })
        else (0, ctx)
      else (0, ctx)

def isSync (msg : Bytes) : Prop := ver msg = 2 ∧ ndomain msg = 0 ∧ msgtype msg = ptpMsgidSync

instance (msg : Bytes) : Decidable (isSync msg) := inferInstanceAs (Decidable (_ ∧ _ ∧ _))

/-- `t2` is read before `recv`, on every call. -/
def ptpcRecvSyncMsg (s : PtpState) (t2 : NsTime) (event : RecvResult) : Int32 × PtpState :=
  let s := { s with sync := { s.sync with t2 := t2 } }
  match event with
  | .again => (0, s)
  | .failed => (-1, s)
  | .datagram bytes =>
      let s := { s with ptpc := s.ptpc.receive bytes }
      let msg := s.ptpc.rxbuf.bytes
      if s.sync.state = .sInit then
        if isSync msg then
          (0, { s with sync := { s.sync with
            seqid := seqid msg
            state := .sSync
            timeoutTimer := s.sync.now } })
        else (0, s)
      else (0, s)

/-- What `ptpc_recv_general_packet` returns and leaves behind, and the bytes it
handed to `sendto`, if it called it. -/
structure GeneralCall where
  ret : Int32
  state : PtpState
  request : Option Bytes
  deriving DecidableEq

def acceptFollowUp (s : PtpState) (send : SendResult) (t3 : NsTime) : GeneralCall :=
  let sync := { s.sync with t1 := tstampToNs (tstamp s.ptpc.rxbuf.bytes) }
  let ptpc := { s.ptpc with txbuf := buildPtpDelayReqMsg sync s.ptpc.txbuf }
  let request := some (ptpc.txbuf.bytes.take ptpDelayReqSize)
  match send with
  | .failed => ⟨-1, ⟨ptpc, sync⟩, request⟩
  | _ => ⟨0, ⟨ptpc, { sync with t3 := t3, state := .sFollowUp, timeoutTimer := sync.now }⟩,
      request⟩

/-- The measurement itself: adopt the new delay if none is held or it is no
larger, compared as unsigned words. -/
def updateMeanPathDelay (ctx : PtpcCtx) (sync : PtpcSyncCtx) : PtpcCtx :=
  let newMeanPathDelay : UInt64 := (ptpMeanPathDelay sync).toUInt64
  if ctx.meanPathDelay = 0 ∨ newMeanPathDelay ≤ ctx.meanPathDelay.toUInt64 then
    let ctx := { ctx with meanPathDelay := newMeanPathDelay.toInt64 }
    { ctx with ptpOffset := ptpOffset ctx sync }
  else ctx

/-- The `S_FOLLOW_UP` branch on a Delay_Resp; the state stays `S_FOLLOW_UP`. -/
def acceptDelayResp (s : PtpState) : GeneralCall :=
  let sync := { s.sync with t4 := tstampToNs (tstamp s.ptpc.rxbuf.bytes) }
  let ptpc := updateMeanPathDelay s.ptpc sync
  ⟨0, ⟨ptpc, { sync with
    syncedCount := sync.syncedCount + 1
    timeoutTimer := sync.now }⟩, none⟩

/-- The tests made on the message in the buffer, in the order of the source. -/
def handleGeneral (s : PtpState) (send : SendResult) (t3 : NsTime) : GeneralCall :=
  let msg := s.ptpc.rxbuf.bytes
  if ver msg ≠ 2 ∨ ndomain msg ≠ 0 then ⟨0, s, none⟩
  else if seqid msg ≠ s.sync.seqid then
    ⟨0, { s with sync := { ptpSyncStateReset s.sync with timeoutTimer := s.sync.now } }, none⟩
  else if clockId msg ≠ s.ptpc.ptpServerId then ⟨-1, s, none⟩
  else if s.sync.state = .sSync ∧ msgtype msg = ptpMsgidFollowUp then acceptFollowUp s send t3
  else if s.sync.state = .sFollowUp ∧ msgtype msg = ptpMsgidDelayResp then acceptDelayResp s
  else ⟨0, s, none⟩

def ptpcRecvGeneralPacket (s : PtpState) (general : RecvResult) (send : SendResult)
    (t3 : NsTime) : GeneralCall :=
  match general with
  | .again => ⟨0, s, none⟩
  | .failed => ⟨-1, s, none⟩
  | .datagram bytes => handleGeneral { s with ptpc := s.ptpc.receive bytes } send t3

end AoipCore.Ptp
