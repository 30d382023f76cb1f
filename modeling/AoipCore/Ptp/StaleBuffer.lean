import AoipCore.Ptp.Clock
import Mathlib.Data.Nat.Bitwise

/-!
# What the receivers take from an older datagram

`recv` overwrites the front of the shared buffer and leaves the rest. A receiver
is independent of the rest if any two buffers lead to the same return value, the
same state apart from the buffer, and the same request. Each of the three is
independent for exactly the datagrams of a condition on their bytes: either all
bytes that decide are there, or those that are there already decide.
-/

namespace AoipCore.Ptp

open ByteBuffer AoipCore.Host AoipCore.Timer

set_option autoImplicit false

/-! ## A datagram in the buffer -/

theorem received_get (buf : PacketBuf) (datagram : Bytes)
    (short : datagram.length ≤ ptpPacketBufSize) (index : Nat) :
    (buf.receive datagram).bytes[index]? =
      if index < datagram.length then datagram[index]? else buf.bytes[index]? := by
  have whole : datagram.take ptpPacketBufSize = datagram := List.take_of_length_le short
  have room := buf.room
  unfold PacketBuf.receive PacketBuf.put
  dsimp only
  rw [whole]
  split_ifs with inside
  · have front := write_at_get_inside buf.bytes 0 datagram index inside (by omega)
    rwa [Nat.zero_add] at front
  · exact write_at_get_outside buf.bytes 0 datagram index (.inr (by omega))

theorem received_byte (buf : PacketBuf) (datagram : Bytes)
    (short : datagram.length ≤ ptpPacketBufSize) (index : Nat) :
    field8 (buf.receive datagram).bytes index =
      if index < datagram.length then field8 datagram index else field8 buf.bytes index := by
  simp only [field8, List.getD_eq_getElem?_getD, received_get buf datagram short]
  split_ifs <;> rfl

theorem received_slice (buf : PacketBuf) (datagram : Bytes)
    (short : datagram.length ≤ ptpPacketBufSize) (offset count : Nat)
    (inside : offset + count ≤ datagram.length) :
    slice (buf.receive datagram).bytes offset count = slice datagram offset count := by
  apply List.ext_getElem?
  intro index
  by_cases near : index < count
  · rw [slice_get _ _ _ _ near, slice_get _ _ _ _ near, received_get buf datagram short,
      if_pos (by omega)]
  · rw [List.getElem?_eq_none, List.getElem?_eq_none] <;>
      simp only [slice, List.length_take] <;> omega

theorem received_room (buf : PacketBuf) (datagram : Bytes) :
    ptpPacketBufSize ≤ (buf.receive datagram).bytes.length := (buf.receive datagram).room

/-! ## Words and their bytes -/

theorem seqid_value (msg : Bytes) (long : ptpPacketBufSize ≤ msg.length) :
    (seqid msg).toNat = (field8 msg 30).toNat + 256 * (field8 msg 31).toNat := by
  have size : ptpPacketBufSize = 256 := rfl
  rw [seqid, field16_value, slice_byte msg 30 1 (by omega), slice_byte msg 31 0 (by omega)]
  simp only [slice, List.take_zero, littleValue]
  omega

theorem seqid_eq_iff (msg : Bytes) (long : ptpPacketBufSize ≤ msg.length) (value : UInt16) :
    seqid msg = value ↔
      field8 msg 30 = UInt8.ofNat value.toNat ∧ field8 msg 31 = UInt8.ofNat (value.toNat / 256) := by
  have bytes := seqid_value msg long
  have low : (field8 msg 30).toNat < 256 := (field8 msg 30).toNat_lt
  have high : (field8 msg 31).toNat < 256 := (field8 msg 31).toNat_lt
  have bounded := value.toNat_lt
  rw [← UInt16.toNat_inj, ← UInt8.toNat_inj, ← UInt8.toNat_inj, bytes, UInt8.toNat_ofNat',
    UInt8.toNat_ofNat']
  omega

theorem clock_last_byte {msg other : Bytes} (long : ptpPacketBufSize ≤ msg.length)
    (otherLong : ptpPacketBufSize ≤ other.length) (same : clockId msg = clockId other) :
    field8 msg 27 = field8 other 27 := by
  have size : ptpPacketBufSize = 256 := rfl
  apply word_last_byte 20 7 (by omega) (by omega)
  rw [← field64_value, ← field64_value]
  exact congrArg UInt64.toNat same

theorem nanoseconds_last_byte {msg other : Bytes} (long : ptpPacketBufSize ≤ msg.length)
    (otherLong : ptpPacketBufSize ≤ other.length) (same : field32 msg 40 = field32 other 40) :
    field8 msg 43 = field8 other 43 := by
  have size : ptpPacketBufSize = 256 := rfl
  apply word_last_byte 40 3 (by omega) (by omega)
  rw [← field32_value, ← field32_value, same]

/-! ## Buffers chosen against a receiver -/

/-- Version 2 and domain 0, with free choice of the bytes that the tests and
the results depend on most. -/
def staleBytes (kind flags clockTop seqLow seqHigh last : UInt8) : Bytes :=
  [kind, 2, 0, 0, 0, 0, flags] ++ List.replicate 20 0 ++ [clockTop, 0, 0, seqLow, seqHigh] ++
    List.replicate 11 0 ++ [last] ++ List.replicate 212 0

theorem stale_bytes_room (kind flags clockTop seqLow seqHigh last : UInt8) :
    ptpPacketBufSize ≤ (staleBytes kind flags clockTop seqLow seqHigh last).length := by
  have size : (staleBytes kind flags clockTop seqLow seqHigh last).length = 256 := by
    simp only [staleBytes, List.length_append, List.length_replicate, List.length_cons,
      List.length_nil]
  rw [size]
  exact Nat.le_refl ptpPacketBufSize

def staleBuf (kind flags clockTop seqLow seqHigh last : UInt8) : PacketBuf where
  bytes := staleBytes kind flags clockTop seqLow seqHigh last
  room := stale_bytes_room kind flags clockTop seqLow seqHigh last

theorem stale_buf_bytes (kind flags clockTop seqLow seqHigh last : UInt8) :
    field8 (staleBuf kind flags clockTop seqLow seqHigh last).bytes 0 = kind ∧
      field8 (staleBuf kind flags clockTop seqLow seqHigh last).bytes 1 = 2 ∧
      field8 (staleBuf kind flags clockTop seqLow seqHigh last).bytes 4 = 0 ∧
      field8 (staleBuf kind flags clockTop seqLow seqHigh last).bytes 6 = flags ∧
      field8 (staleBuf kind flags clockTop seqLow seqHigh last).bytes 27 = clockTop ∧
      field8 (staleBuf kind flags clockTop seqLow seqHigh last).bytes 30 = seqLow ∧
      field8 (staleBuf kind flags clockTop seqLow seqHigh last).bytes 31 = seqHigh ∧
      field8 (staleBuf kind flags clockTop seqLow seqHigh last).bytes 43 = last :=
  ⟨rfl, rfl, rfl, rfl, rfl, rfl, rfl, rfl⟩

/-! ## Header tests on a part of a message

Each test is about bytes that may not have arrived. -/

def versionPossible (datagram : Bytes) : Prop :=
  (1 < datagram.length → ver datagram = 2) ∧ (4 < datagram.length → ndomain datagram = 0)

def headerPossible (kind : UInt8) (datagram : Bytes) : Prop :=
  versionPossible datagram ∧ (0 < datagram.length → msgtype datagram = kind)

def flagsPossible (datagram : Bytes) : Prop :=
  6 < datagram.length →
    flagIsSet (flag datagram) ptpFlagTwoStep = true ∧
      flagIsSet (flag datagram) ptpFlagUnicast = false

section Received

variable (buf : PacketBuf) {datagram : Bytes} (short : datagram.length ≤ ptpPacketBufSize)

include short

theorem received_version :
    ver (buf.receive datagram).bytes =
      if 1 < datagram.length then ver datagram else ver buf.bytes := by
  unfold ver
  rw [received_byte buf datagram short]
  split_ifs <;> rfl

theorem received_domain :
    ndomain (buf.receive datagram).bytes =
      if 4 < datagram.length then ndomain datagram else ndomain buf.bytes :=
  received_byte buf datagram short 4

theorem received_msgtype :
    msgtype (buf.receive datagram).bytes =
      if 0 < datagram.length then msgtype datagram else msgtype buf.bytes := by
  unfold msgtype
  rw [received_byte buf datagram short]
  split_ifs <;> rfl

theorem received_header (long : 5 ≤ datagram.length) :
    ver (buf.receive datagram).bytes = ver datagram ∧
      ndomain (buf.receive datagram).bytes = ndomain datagram ∧
      msgtype (buf.receive datagram).bytes = msgtype datagram := by
  rw [received_version buf short, if_pos (by omega), received_domain buf short,
    if_pos (by omega), received_msgtype buf short, if_pos (by omega)]
  exact ⟨rfl, rfl, rfl⟩

theorem received_clock (long : 28 ≤ datagram.length) :
    clockId (buf.receive datagram).bytes = clockId datagram := by
  rw [clockId, field64, received_slice buf datagram short 20 8 long]
  rfl

theorem received_seqid (long : 32 ≤ datagram.length) :
    seqid (buf.receive datagram).bytes = seqid datagram := by
  rw [seqid, field16, received_slice buf datagram short 30 2 long]
  rfl

theorem received_tstamp (long : 44 ≤ datagram.length) :
    tstamp (buf.receive datagram).bytes = tstamp datagram := by
  rw [tstamp, timestampAt, field16, field32, field32,
    received_slice buf datagram short 34 2 (by omega),
    received_slice buf datagram short 36 4 (by omega),
    received_slice buf datagram short 40 4 (by omega)]
  rfl

/-- What has arrived rules the message out whatever else is in the buffer. -/
theorem version_ruled_out (impossible : ¬versionPossible datagram) :
    ver (buf.receive datagram).bytes ≠ 2 ∨ ndomain (buf.receive datagram).bytes ≠ 0 := by
  by_contra accepted
  push Not at accepted
  apply impossible
  constructor
  · intro arrived
    rw [← accepted.1, received_version buf short, if_pos arrived]
  · intro arrived
    rw [← accepted.2, received_domain buf short, if_pos arrived]

theorem header_ruled_out {kind : UInt8} (impossible : ¬headerPossible kind datagram) :
    ¬(ver (buf.receive datagram).bytes = 2 ∧ ndomain (buf.receive datagram).bytes = 0 ∧
      msgtype (buf.receive datagram).bytes = kind) := by
  rintro ⟨version, domain, type⟩
  apply impossible
  constructor
  · by_contra other
    rcases version_ruled_out buf short other with wrong | wrong
    · exact wrong version
    · exact wrong domain
  · intro arrived
    rw [← type, received_msgtype buf short, if_pos arrived]

theorem stale_version (possible : versionPossible datagram) (version : ver buf.bytes = 2)
    (domain : ndomain buf.bytes = 0) :
    ver (buf.receive datagram).bytes = 2 ∧ ndomain (buf.receive datagram).bytes = 0 := by
  rw [received_version buf short, received_domain buf short]
  constructor
  · split_ifs with arrived
    · exact possible.1 arrived
    · exact version
  · split_ifs with arrived
    · exact possible.2 arrived
    · exact domain

theorem stale_header {kind : UInt8} (possible : headerPossible kind datagram)
    (version : ver buf.bytes = 2) (domain : ndomain buf.bytes = 0)
    (type : msgtype buf.bytes = kind) :
    ver (buf.receive datagram).bytes = 2 ∧ ndomain (buf.receive datagram).bytes = 0 ∧
      msgtype (buf.receive datagram).bytes = kind := by
  obtain ⟨first, second⟩ := stale_version buf short possible.1 version domain
  refine ⟨first, second, ?_⟩
  rw [received_msgtype buf short]
  split_ifs with arrived
  · exact possible.2 arrived
  · exact type

end Received

/-! Only the low byte of the flags is tested. -/

theorem flag_low_byte (msg : Bytes) (arrived : 6 < msg.length) :
    (flag msg).toNat % 256 = (field8 msg 6).toNat := by
  have low : (field8 msg 6).toNat < 256 := (field8 msg 6).toNat_lt
  rw [flag, field16_value, slice_byte msg 6 1 arrived, littleValue]
  omega

theorem flag_is_set_bit (flg mask : UInt16) (bit : Nat) (single : mask.toNat = 1 <<< bit) :
    flagIsSet flg mask = flg.toNat.testBit bit := by
  have masked : (flg &&& mask).toNat = (flg.toNat.testBit bit).toNat * 1 <<< bit := by
    rw [UInt16.toNat_and, single, Nat.one_shiftLeft, Nat.and_two_pow]
  have weight : 0 < 1 <<< bit := by
    rw [Nat.one_shiftLeft]
    exact Nat.two_pow_pos bit
  unfold flagIsSet
  cases set : flg.toNat.testBit bit with
  | false =>
      have clear : flg &&& mask = 0 := by
        apply UInt16.toNat_inj.mp
        rw [masked, set]
        simp
      simp [clear]
  | true =>
      rw [bne_iff_ne]
      intro clear
      rw [set, clear] at masked
      simp at masked
      omega

theorem flag_tests_congr (msg other : Bytes) (arrived : 6 < msg.length)
    (otherArrived : 6 < other.length) (same : field8 msg 6 = field8 other 6) :
    flagIsSet (flag msg) ptpFlagTwoStep = flagIsSet (flag other) ptpFlagTwoStep ∧
      flagIsSet (flag msg) ptpFlagUnicast = flagIsSet (flag other) ptpFlagUnicast := by
  have low : (flag msg).toNat % 256 = (flag other).toNat % 256 := by
    rw [flag_low_byte msg arrived, flag_low_byte other otherArrived, same]
  have bits : ∀ bit, bit < 8 → (flag msg).toNat.testBit bit = (flag other).toNat.testBit bit := by
    intro bit small
    have masked : ((flag msg).toNat % 2 ^ 8).testBit bit = ((flag other).toNat % 2 ^ 8).testBit bit :=
      congrArg (fun value => value.testBit bit) low
    rwa [Nat.testBit_mod_two_pow, Nat.testBit_mod_two_pow, decide_eq_true small, Bool.true_and,
      Bool.true_and] at masked
  rw [flag_is_set_bit _ _ 1 rfl, flag_is_set_bit _ _ 1 rfl, flag_is_set_bit _ _ 2 rfl,
    flag_is_set_bit _ _ 2 rfl]
  exact ⟨bits 1 (by decide), bits 2 (by decide)⟩

/-! ## `ptpc_recv_announce_msg` -/

def PtpcCtx.apart (ctx : PtpcCtx) : PtpcCtx := { ctx with rxbuf := .zero }

def PtpState.apart (s : PtpState) : PtpState := { s with ptpc := s.ptpc.apart }

def PtpState.holding (s : PtpState) (buf : PacketBuf) : PtpState :=
  { s with ptpc := { s.ptpc with rxbuf := buf } }

/-- What a call on a datagram returns and leaves apart from the buffer, when
`buf` is what the buffer held before. -/
def announceOutcome (ctx : PtpcCtx) (buf : PacketBuf) (datagram : Bytes) (sender : UInt32) :
    Int32 × PtpcCtx :=
  Prod.map id PtpcCtx.apart
    (ptpcRecvAnnounceMsg { ctx with rxbuf := buf } (.datagram datagram) sender)

def acceptsAnnounce (msg : Bytes) : Prop :=
  (ver msg = 2 ∧ ndomain msg = 0 ∧ msgtype msg = ptpMsgidAnnounce) ∧
    flagIsSet (flag msg) ptpFlagTwoStep = true ∧ flagIsSet (flag msg) ptpFlagUnicast = false

theorem announce_outcome_accepted (ctx : PtpcCtx) (buf : PacketBuf) {datagram : Bytes}
    (sender : UInt32) (some : datagram ≠ [])
    (accepts : acceptsAnnounce (buf.receive datagram).bytes) :
    announceOutcome ctx buf datagram sender =
      (1, { ctx.apart with
        serverAddr := sender
        ptpServerId := clockId (buf.receive datagram).bytes }) := by
  obtain ⟨header, twoStep, unicast⟩ := accepts
  simp only [announceOutcome, ptpcRecvAnnounceMsg, PtpcCtx.receive, if_neg some, if_pos header,
    twoStep, unicast, Bool.not_false, Bool.and_self, if_true]
  rfl

theorem announce_outcome_refused (ctx : PtpcCtx) (buf : PacketBuf) {datagram : Bytes}
    (sender : UInt32)
    (refused : datagram = [] ∨ ¬acceptsAnnounce (buf.receive datagram).bytes) :
    announceOutcome ctx buf datagram sender = (0, ctx.apart) := by
  unfold announceOutcome ptpcRecvAnnounceMsg
  dsimp only [PtpcCtx.receive]
  split_ifs with none header flags
  · rfl
  · simp only [Bool.and_eq_true, Bool.not_eq_true'] at flags
    exact absurd ⟨header, flags⟩ (refused.resolve_left none)
  · rfl
  · rfl

def announceSettled (datagram : Bytes) : Prop :=
  datagram = [] ∨ 28 ≤ datagram.length ∨
    ¬(headerPossible ptpMsgidAnnounce datagram ∧ flagsPossible datagram)

theorem accepts_announce_arrived (buf : PacketBuf) {datagram : Bytes}
    (short : datagram.length ≤ ptpPacketBufSize) (long : 28 ≤ datagram.length) :
    acceptsAnnounce (buf.receive datagram).bytes ↔ acceptsAnnounce datagram := by
  have room := received_room buf datagram
  have size : ptpPacketBufSize = 256 := rfl
  have flags := flag_tests_congr (buf.receive datagram).bytes datagram
    (by omega) (by omega) (by rw [received_byte buf datagram short, if_pos (by omega)])
  obtain ⟨version, domain, kind⟩ := received_header buf short (by omega)
  unfold acceptsAnnounce
  rw [version, domain, kind, flags.1, flags.2]

theorem announce_ruled_out (buf : PacketBuf) {datagram : Bytes}
    (short : datagram.length ≤ ptpPacketBufSize)
    (impossible : ¬(headerPossible ptpMsgidAnnounce datagram ∧ flagsPossible datagram)) :
    ¬acceptsAnnounce (buf.receive datagram).bytes := by
  rintro ⟨header, flags⟩
  apply impossible
  constructor
  · by_contra other
    exact header_ruled_out buf short other header
  · intro arrived
    have room := received_room buf datagram
    have size : ptpPacketBufSize = 256 := rfl
    have same := flag_tests_congr (buf.receive datagram).bytes datagram
      (by omega) arrived (by rw [received_byte buf datagram short, if_pos (by omega)])
    rwa [same.1, same.2] at flags

theorem announce_completed {datagram : Bytes} (short : datagram.length ≤ ptpPacketBufSize)
    (possible : headerPossible ptpMsgidAnnounce datagram ∧ flagsPossible datagram)
    (clockTop : UInt8) :
    acceptsAnnounce ((staleBuf ptpMsgidAnnounce 2 clockTop 0 0 0).receive datagram).bytes := by
  generalize chosen : staleBuf ptpMsgidAnnounce 2 clockTop 0 0 0 = buf
  have bytes := stale_buf_bytes ptpMsgidAnnounce 2 clockTop 0 0 0
  rw [chosen] at bytes
  have room := received_room buf datagram
  have size : ptpPacketBufSize = 256 := rfl
  constructor
  · apply stale_header buf short possible.1
    · rw [ver, bytes.2.1]
      decide
    · exact bytes.2.2.1
    · rw [msgtype, bytes.1]
      decide
  · by_cases arrived : 6 < datagram.length
    · have same := flag_tests_congr (buf.receive datagram).bytes datagram
        (by omega) arrived (by rw [received_byte buf datagram short, if_pos arrived])
      rw [same.1, same.2]
      exact possible.2 arrived
    · have own := buf.room
      have same := flag_tests_congr (buf.receive datagram).bytes
        (sampleMsg ptpMsgidAnnounce 0) (by omega) (by decide)
        (by rw [received_byte buf datagram short, if_neg arrived, bytes.2.2.2.1]; rfl)
      rw [same.1, same.2]
      decide

theorem announce_independent_iff (ctx : PtpcCtx) {datagram : Bytes} (sender : UInt32)
    (short : datagram.length ≤ ptpPacketBufSize) :
    (∀ first second, announceOutcome ctx first datagram sender =
      announceOutcome ctx second datagram sender) ↔ announceSettled datagram := by
  constructor
  · intro independent
    by_contra unsettled
    unfold announceSettled at unsettled
    push Not at unsettled
    obtain ⟨some, few, possible⟩ := unsettled
    have same := independent (staleBuf ptpMsgidAnnounce 2 0 0 0 0)
      (staleBuf ptpMsgidAnnounce 2 1 0 0 0)
    rw [announce_outcome_accepted ctx _ sender some (announce_completed short possible 0),
      announce_outcome_accepted ctx _ sender some (announce_completed short possible 1)] at same
    have clocks : clockId ((staleBuf ptpMsgidAnnounce 2 0 0 0 0).receive datagram).bytes =
        clockId ((staleBuf ptpMsgidAnnounce 2 1 0 0 0).receive datagram).bytes :=
      congrArg (fun outcome => outcome.2.ptpServerId) same
    have tops := clock_last_byte (received_room _ datagram) (received_room _ datagram) clocks
    rw [received_byte _ datagram short, if_neg (by omega), received_byte _ datagram short,
      if_neg (by omega)] at tops
    exact absurd tops (by decide)
  · rintro (rfl | long | impossible) first second
    · rw [announce_outcome_refused ctx first sender (.inl rfl),
        announce_outcome_refused ctx second sender (.inl rfl)]
    · have some : datagram ≠ [] := by
        rintro rfl
        simp at long
      by_cases accepts : acceptsAnnounce datagram
      · rw [announce_outcome_accepted ctx first sender some
            ((accepts_announce_arrived first short long).mpr accepts),
          announce_outcome_accepted ctx second sender some
            ((accepts_announce_arrived second short long).mpr accepts),
          received_clock first short long, received_clock second short long]
      · rw [announce_outcome_refused ctx first sender
            (.inr (accepts ∘ (accepts_announce_arrived first short long).mp)),
          announce_outcome_refused ctx second sender
            (.inr (accepts ∘ (accepts_announce_arrived second short long).mp))]
    · rw [announce_outcome_refused ctx first sender
          (.inr (announce_ruled_out first short impossible)),
        announce_outcome_refused ctx second sender
          (.inr (announce_ruled_out second short impossible))]

/-! ## `ptpc_recv_sync_msg` -/

def syncOutcome (s : PtpState) (buf : PacketBuf) (datagram : Bytes) (t2 : NsTime) :
    Int32 × PtpState :=
  Prod.map id PtpState.apart (ptpcRecvSyncMsg (s.holding buf) t2 (.datagram datagram))

def syncAccepted (s : PtpState) (t2 : NsTime) (msg : Bytes) : PtpState :=
  { s.apart with sync := { s.sync with
    t2 := t2
    seqid := seqid msg
    state := .sSync
    timeoutTimer := s.sync.now } }

theorem sync_outcome_eq (s : PtpState) (buf : PacketBuf) (datagram : Bytes) (t2 : NsTime) :
    syncOutcome s buf datagram t2 =
      if s.sync.state = .sInit ∧ isSync (buf.receive datagram).bytes then
        (0, syncAccepted s t2 (buf.receive datagram).bytes)
      else (0, { s.apart with sync := { s.sync with t2 := t2 } }) := by
  unfold syncOutcome ptpcRecvSyncMsg
  by_cases initial : s.sync.state = .sInit
  · have held : (s.holding buf).sync.state = .sInit := initial
    by_cases accepts : isSync (buf.receive datagram).bytes
    · have arrived : isSync ((s.holding buf).ptpc.receive datagram).rxbuf.bytes := accepts
      rw [if_pos ⟨initial, accepts⟩]
      simp only [if_pos held, if_pos arrived]
      rfl
    · have refused : ¬isSync ((s.holding buf).ptpc.receive datagram).rxbuf.bytes := accepts
      rw [if_neg (fun both => accepts both.2)]
      simp only [if_pos held, if_neg refused]
      rfl
  · have held : ¬(s.holding buf).sync.state = .sInit := initial
    rw [if_neg (fun both => initial both.1)]
    simp only [if_neg held]
    rfl

def syncSettled (s : PtpState) (datagram : Bytes) : Prop :=
  s.sync.state ≠ .sInit ∨ 32 ≤ datagram.length ∨ ¬headerPossible ptpMsgidSync datagram

theorem sync_completed {datagram : Bytes} (short : datagram.length ≤ ptpPacketBufSize)
    (possible : headerPossible ptpMsgidSync datagram) (seqHigh : UInt8) :
    isSync ((staleBuf ptpMsgidSync 0 0 0 seqHigh 0).receive datagram).bytes := by
  have bytes := stale_buf_bytes ptpMsgidSync 0 0 0 seqHigh 0
  apply stale_header _ short possible
  · rw [ver, bytes.2.1]
    decide
  · exact bytes.2.2.1
  · rw [msgtype, bytes.1]
    decide

theorem sync_independent_iff (s : PtpState) {datagram : Bytes} (t2 : NsTime)
    (short : datagram.length ≤ ptpPacketBufSize) :
    (∀ first second, syncOutcome s first datagram t2 = syncOutcome s second datagram t2) ↔
      syncSettled s datagram := by
  constructor
  · intro independent
    by_contra unsettled
    unfold syncSettled at unsettled
    push Not at unsettled
    obtain ⟨initial, few, possible⟩ := unsettled
    have same := independent (staleBuf ptpMsgidSync 0 0 0 0 0) (staleBuf ptpMsgidSync 0 0 0 1 0)
    rw [sync_outcome_eq, if_pos ⟨initial, sync_completed short possible 0⟩, sync_outcome_eq,
      if_pos ⟨initial, sync_completed short possible 1⟩] at same
    have sequences : seqid ((staleBuf ptpMsgidSync 0 0 0 0 0).receive datagram).bytes =
        seqid ((staleBuf ptpMsgidSync 0 0 0 1 0).receive datagram).bytes :=
      congrArg (fun outcome => outcome.2.sync.seqid) same
    have high := ((seqid_eq_iff _ (received_room _ datagram) _).mp sequences).2
    have other := ((seqid_eq_iff _ (received_room _ datagram) _).mp
      (Eq.refl (seqid ((staleBuf ptpMsgidSync 0 0 0 1 0).receive datagram).bytes))).2
    have tops := high.trans other.symm
    rw [received_byte _ datagram short, if_neg (by omega), received_byte _ datagram short,
      if_neg (by omega)] at tops
    exact absurd tops (by decide)
  · intro settled first second
    rw [sync_outcome_eq, sync_outcome_eq]
    rcases settled with running | long | impossible
    · rw [if_neg (fun both => running both.1), if_neg (fun both => running both.1)]
    · have arrived : ∀ buf : PacketBuf, isSync (buf.receive datagram).bytes ↔ isSync datagram := by
        intro buf
        obtain ⟨version, domain, kind⟩ := received_header buf short (by omega)
        unfold isSync
        rw [version, domain, kind]
      simp only [arrived, syncAccepted, received_seqid first short long,
        received_seqid second short long]
    · rw [if_neg (fun both => header_ruled_out first short impossible both.2),
        if_neg (fun both => header_ruled_out second short impossible both.2)]

/-! ## `ptpc_recv_general_packet` -/

def followed (s : PtpState) (send : SendResult) (t3 t1 : NsTime) : GeneralCall :=
  let sync := { s.sync with t1 := t1 }
  let txbuf := buildPtpDelayReqMsg sync s.ptpc.txbuf
  { ret := if send = .failed then -1 else 0
    state :=
      { ptpc := { s.ptpc.apart with txbuf := txbuf }
        sync :=
          if send = .failed then sync
          else { sync with t3 := t3, state := .sFollowUp, timeoutTimer := s.sync.now } }
    request := some (txbuf.bytes.take ptpDelayReqSize) }

def measured (s : PtpState) (t4 : NsTime) : GeneralCall :=
  let sync := { s.sync with t4 := t4 }
  { ret := 0
    state :=
      { ptpc := updateMeanPathDelay s.ptpc.apart sync
        sync := { sync with
          syncedCount := s.sync.syncedCount + 1
          timeoutTimer := s.sync.now } }
    request := none }

def resetSync (sync : PtpcSyncCtx) : PtpcSyncCtx :=
  { ptpSyncStateReset sync with timeoutTimer := sync.now }

def unchanged (s : PtpState) : GeneralCall := ⟨0, s.apart, none⟩

def carries (state : PtpSyncState) (kind : UInt8) : Prop :=
  state = .sSync ∧ kind = ptpMsgidFollowUp ∨ state = .sFollowUp ∧ kind = ptpMsgidDelayResp

/-- The call as a function of the message in the buffer. -/
def respond (s : PtpState) (send : SendResult) (t3 : NsTime) (msg : Bytes) : GeneralCall :=
  if ver msg ≠ 2 ∨ ndomain msg ≠ 0 then unchanged s
  else if seqid msg ≠ s.sync.seqid then ⟨0, { s.apart with sync := resetSync s.sync }, none⟩
  else if clockId msg ≠ s.ptpc.ptpServerId then ⟨-1, s.apart, none⟩
  else if s.sync.state = .sSync ∧ msgtype msg = ptpMsgidFollowUp then
    followed s send t3 (tstampToNs (tstamp msg))
  else if s.sync.state = .sFollowUp ∧ msgtype msg = ptpMsgidDelayResp then
    measured s (tstampToNs (tstamp msg))
  else unchanged s

def GeneralCall.apart (call : GeneralCall) : GeneralCall :=
  { call with state := call.state.apart }

def generalOutcome (s : PtpState) (buf : PacketBuf) (datagram : Bytes) (send : SendResult)
    (t3 : NsTime) : GeneralCall :=
  (ptpcRecvGeneralPacket (s.holding buf) (.datagram datagram) send t3).apart

theorem update_apart (ctx : PtpcCtx) (sync : PtpcSyncCtx) :
    (updateMeanPathDelay ctx sync).apart = updateMeanPathDelay ctx.apart sync := by
  unfold updateMeanPathDelay PtpcCtx.apart
  dsimp only
  split_ifs <;> rfl

theorem accept_follow_up_apart (s : PtpState) (buf : PacketBuf) (send : SendResult) (t3 : NsTime) :
    (acceptFollowUp (s.holding buf) send t3).apart =
      followed s send t3 (tstampToNs (tstamp buf.bytes)) := by
  unfold acceptFollowUp followed
  dsimp only [PtpState.holding]
  generalize tstampToNs (tstamp buf.bytes) = t1
  cases send <;> rfl

theorem accept_delay_resp_apart (s : PtpState) (buf : PacketBuf) :
    (acceptDelayResp (s.holding buf)).apart = measured s (tstampToNs (tstamp buf.bytes)) := by
  unfold acceptDelayResp measured
  dsimp only [PtpState.holding]
  generalize tstampToNs (tstamp buf.bytes) = t4
  unfold GeneralCall.apart PtpState.apart
  dsimp only
  rw [update_apart]
  rfl

theorem handle_holding (s : PtpState) (buf : PacketBuf) (send : SendResult) (t3 : NsTime) :
    handleGeneral (s.holding buf) send t3 =
      if ver buf.bytes ≠ 2 ∨ ndomain buf.bytes ≠ 0 then ⟨0, s.holding buf, none⟩
      else if seqid buf.bytes ≠ s.sync.seqid then resetCall (s.holding buf)
      else if clockId buf.bytes ≠ s.ptpc.ptpServerId then ⟨-1, s.holding buf, none⟩
      else if s.sync.state = .sSync ∧ msgtype buf.bytes = ptpMsgidFollowUp then
        acceptFollowUp (s.holding buf) send t3
      else if s.sync.state = .sFollowUp ∧ msgtype buf.bytes = ptpMsgidDelayResp then
        acceptDelayResp (s.holding buf)
      else ⟨0, s.holding buf, none⟩ := rfl

theorem general_outcome_eq (s : PtpState) (buf : PacketBuf) (datagram : Bytes) (send : SendResult)
    (t3 : NsTime) :
    generalOutcome s buf datagram send t3 =
      respond s send t3 (buf.receive datagram).bytes := by
  have received : generalOutcome s buf datagram send t3 =
      (handleGeneral (s.holding (buf.receive datagram)) send t3).apart := rfl
  rw [received, handle_holding]
  unfold respond
  split_ifs with version sequence clock followUp delayResp
  · rfl
  · rfl
  · rfl
  · exact accept_follow_up_apart s (buf.receive datagram) send t3
  · exact accept_delay_resp_apart s (buf.receive datagram)
  · rfl

/-! The branches of the response. -/

section Branches

variable (s : PtpState) (send : SendResult) (t3 : NsTime) {msg : Bytes}

theorem respond_ruled_out (other : ver msg ≠ 2 ∨ ndomain msg ≠ 0) :
    respond s send t3 msg = unchanged s := by
  rw [respond, if_pos other]

variable (current : ver msg = 2 ∧ ndomain msg = 0)

include current

theorem not_ruled_out : ¬(ver msg ≠ 2 ∨ ndomain msg ≠ 0) := by
  rintro (version | domain)
  · exact version current.1
  · exact domain current.2

theorem respond_other_sequence (other : seqid msg ≠ s.sync.seqid) :
    respond s send t3 msg = ⟨0, { s.apart with sync := resetSync s.sync }, none⟩ := by
  rw [respond, if_neg (not_ruled_out current), if_pos other]

theorem respond_other_clock (sequence : seqid msg = s.sync.seqid)
    (other : clockId msg ≠ s.ptpc.ptpServerId) :
    respond s send t3 msg = ⟨-1, s.apart, none⟩ := by
  rw [respond, if_neg (not_ruled_out current), if_neg (not_not_intro sequence), if_pos other]

theorem respond_expected (sequence : seqid msg = s.sync.seqid)
    (clock : clockId msg = s.ptpc.ptpServerId) :
    respond s send t3 msg =
      if s.sync.state = .sSync ∧ msgtype msg = ptpMsgidFollowUp then
        followed s send t3 (tstampToNs (tstamp msg))
      else if s.sync.state = .sFollowUp ∧ msgtype msg = ptpMsgidDelayResp then
        measured s (tstampToNs (tstamp msg))
      else unchanged s := by
  rw [respond, if_neg (not_ruled_out current), if_neg (not_not_intro sequence),
    if_neg (not_not_intro clock)]

theorem respond_idle (sequence : seqid msg = s.sync.seqid)
    (clock : clockId msg = s.ptpc.ptpServerId) (idle : ¬carries s.sync.state (msgtype msg)) :
    respond s send t3 msg = unchanged s := by
  rw [carries, not_or] at idle
  rw [respond_expected s send t3 current sequence clock, if_neg idle.1, if_neg idle.2]

end Branches

/-- Either all bytes that decide have arrived, or those that have rule the
message out, or those that have not make no difference. -/
def generalSettled (s : PtpState) (datagram : Bytes) : Prop :=
  44 ≤ datagram.length ∨ ¬versionPossible datagram ∨
    32 ≤ datagram.length ∧
      ¬(seqid datagram = s.sync.seqid ∧ clockId datagram = s.ptpc.ptpServerId ∧
        carries s.sync.state (msgtype datagram)) ∨
    datagram.length = 31 ∧ field8 datagram 30 ≠ UInt8.ofNat s.sync.seqid.toNat ∨
    28 ≤ datagram.length ∧ datagram.length < 32 ∧ clockId datagram = s.ptpc.ptpServerId ∧
      resetSync s.sync = s.sync

section Settled

variable (s : PtpState) (send : SendResult) (t3 : NsTime) {datagram : Bytes}
  (short : datagram.length ≤ ptpPacketBufSize)

include short

theorem version_arrived (buf : PacketBuf) (possible : versionPossible datagram)
    (long : 5 ≤ datagram.length) :
    ver (buf.receive datagram).bytes = 2 ∧ ndomain (buf.receive datagram).bytes = 0 := by
  obtain ⟨version, domain, -⟩ := received_header buf short long
  rw [version, domain]
  exact ⟨possible.1 (by omega), possible.2 (by omega)⟩

theorem respond_whole (long : 44 ≤ datagram.length) (buf : PacketBuf) :
    respond s send t3 (buf.receive datagram).bytes = respond s send t3 datagram := by
  obtain ⟨version, domain, kind⟩ := received_header buf short (by omega)
  unfold respond
  rw [version, domain, kind, received_seqid buf short (by omega),
    received_clock buf short (by omega), received_tstamp buf short long]

theorem respond_header (possible : versionPossible datagram) (long : 32 ≤ datagram.length)
    (idle : ¬(seqid datagram = s.sync.seqid ∧ clockId datagram = s.ptpc.ptpServerId ∧
      carries s.sync.state (msgtype datagram))) (buf : PacketBuf) :
    respond s send t3 (buf.receive datagram).bytes = respond s send t3 datagram := by
  have current := version_arrived short buf possible (by omega)
  have own : ver datagram = 2 ∧ ndomain datagram = 0 :=
    ⟨possible.1 (by omega), possible.2 (by omega)⟩
  have sequence := received_seqid buf short long
  have clock := received_clock buf short (by omega)
  obtain ⟨-, -, kind⟩ := received_header buf short (by omega)
  by_cases same : seqid datagram = s.sync.seqid
  · by_cases server : clockId datagram = s.ptpc.ptpServerId
    · have nothing : ¬carries s.sync.state (msgtype datagram) :=
        fun carried => idle ⟨same, server, carried⟩
      rw [respond_idle s send t3 current (sequence.trans same) (clock.trans server)
          (by rwa [kind]),
        respond_idle s send t3 own same server nothing]
    · rw [respond_other_clock s send t3 current (sequence.trans same) (by rwa [clock]),
        respond_other_clock s send t3 own same server]
  · rw [respond_other_sequence s send t3 current (by rwa [sequence]),
      respond_other_sequence s send t3 own same]

theorem respond_half_sequence (possible : versionPossible datagram)
    (length : datagram.length = 31)
    (other : field8 datagram 30 ≠ UInt8.ofNat s.sync.seqid.toNat) (buf : PacketBuf) :
    respond s send t3 (buf.receive datagram).bytes =
      ⟨0, { s.apart with sync := resetSync s.sync }, none⟩ := by
  apply respond_other_sequence s send t3 (version_arrived short buf possible (by omega))
  rw [ne_eq, seqid_eq_iff _ (received_room buf datagram)]
  rintro ⟨low, -⟩
  rw [received_byte buf datagram short, if_pos (by omega)] at low
  exact other low

theorem respond_nothing_to_reset (possible : versionPossible datagram)
    (long : 28 ≤ datagram.length) (server : clockId datagram = s.ptpc.ptpServerId)
    (reset : resetSync s.sync = s.sync) (buf : PacketBuf) :
    respond s send t3 (buf.receive datagram).bytes = unchanged s := by
  have current := version_arrived short buf possible (by omega)
  have initial : s.sync.state = .sInit := by
    rw [← reset]
    rfl
  by_cases same : seqid (buf.receive datagram).bytes = s.sync.seqid
  · apply respond_idle s send t3 current same
    · rw [received_clock buf short long, server]
    · rw [carries, initial]
      rintro (⟨other, -⟩ | ⟨other, -⟩) <;> exact absurd other (by decide)
  · rw [respond_other_sequence s send t3 current same, reset]
    rfl

theorem general_settled_independent (settled : generalSettled s datagram)
    (first second : PacketBuf) :
    generalOutcome s first datagram send t3 = generalOutcome s second datagram send t3 := by
  rw [general_outcome_eq, general_outcome_eq]
  by_cases possible : versionPossible datagram
  · rcases settled with whole | impossible | ⟨long, idle⟩ | ⟨length, other⟩ |
      ⟨long, -, server, reset⟩
    · rw [respond_whole s send t3 short whole, respond_whole s send t3 short whole]
    · exact absurd possible impossible
    · rw [respond_header s send t3 short possible long idle,
        respond_header s send t3 short possible long idle]
    · rw [respond_half_sequence s send t3 short possible length other,
        respond_half_sequence s send t3 short possible length other]
    · rw [respond_nothing_to_reset s send t3 short possible long server reset,
        respond_nothing_to_reset s send t3 short possible long server reset]
  · rw [respond_ruled_out s send t3 (version_ruled_out first short possible),
      respond_ruled_out s send t3 (version_ruled_out second short possible)]

end Settled

/-! The other datagrams. A buffer may complete the sequence id to the expected
one or not, and so on. -/

theorem followed_time (s : PtpState) (send : SendResult) (t3 first second : NsTime)
    (same : followed s send t3 first = followed s send t3 second) : first = second := by
  have times := congrArg (fun call => call.state.sync.t1) same
  cases send <;> exact times

theorem measured_time (s : PtpState) (first second : NsTime)
    (same : measured s first = measured s second) : first = second :=
  congrArg (fun call => call.state.sync.t4) same

theorem tstamp_nanoseconds {first second : Timestamp} (high : first.secMsb = second.secMsb)
    (low : first.secLsb = second.secLsb) (same : tstampToNs first = tstampToNs second) :
    first.ns = second.ns := by
  have times := congrArg UInt64.toNat same
  rw [tstamp_to_ns_value, tstamp_to_ns_value, decodedSeconds, decodedSeconds, high, low] at times
  have swapped : ntohl first.ns = ntohl second.ns := UInt32.toNat_inj.mp (Nat.add_left_cancel times)
  calc first.ns = ntohl (htonl first.ns) := (ntohl_htonl first.ns).symm
    _ = ntohl (htonl second.ns) := congrArg ntohl swapped
    _ = second.ns := ntohl_htonl second.ns

section Unsettled

variable (s : PtpState) (send : SendResult) (t3 : NsTime) {datagram : Bytes}
  (short : datagram.length ≤ ptpPacketBufSize)
  (independent : ∀ first second,
    generalOutcome s first datagram send t3 = generalOutcome s second datagram send t3)
  (possible : versionPossible datagram)

include short possible

theorem stale_current (kind flags clockTop seqLow seqHigh last : UInt8) :
    ver ((staleBuf kind flags clockTop seqLow seqHigh last).receive datagram).bytes = 2 ∧
      ndomain ((staleBuf kind flags clockTop seqLow seqHigh last).receive datagram).bytes = 0 := by
  have bytes := stale_buf_bytes kind flags clockTop seqLow seqHigh last
  apply stale_version _ short possible
  · rw [ver, bytes.2.1]
    decide
  · exact bytes.2.2.1

omit possible in
theorem stale_sequence (few : datagram.length < 32)
    (half : datagram.length = 31 → field8 datagram 30 = UInt8.ofNat s.sync.seqid.toNat)
    (clockTop seqHigh : UInt8) :
    seqid ((staleBuf 0 0 clockTop (UInt8.ofNat s.sync.seqid.toNat) seqHigh 0).receive
        datagram).bytes = s.sync.seqid ↔
      seqHigh = UInt8.ofNat (s.sync.seqid.toNat / 256) := by
  have bytes := stale_buf_bytes 0 0 clockTop (UInt8.ofNat s.sync.seqid.toNat) seqHigh 0
  have low : field8 ((staleBuf 0 0 clockTop (UInt8.ofNat s.sync.seqid.toNat) seqHigh 0).receive
      datagram).bytes 30 = UInt8.ofNat s.sync.seqid.toNat := by
    rw [received_byte _ datagram short]
    split_ifs with arrived
    · exact half (by omega)
    · exact bytes.2.2.2.2.2.1
  rw [seqid_eq_iff _ (received_room _ datagram), low, received_byte _ datagram short,
    if_neg (by omega), bytes.2.2.2.2.2.2.1]
  exact and_iff_right rfl

include independent

theorem outcome_is_reset (few : datagram.length < 32)
    (half : datagram.length = 31 → field8 datagram 30 = UInt8.ofNat s.sync.seqid.toNat)
    (buf : PacketBuf) :
    respond s send t3 (buf.receive datagram).bytes =
      ⟨0, { s.apart with sync := resetSync s.sync }, none⟩ := by
  have other : UInt8.ofNat (s.sync.seqid.toNat / 256) + 1 ≠
      UInt8.ofNat (s.sync.seqid.toNat / 256) := by
    intro same
    have values := congrArg UInt8.toNat same
    rw [UInt8.toNat_add] at values
    have one : (1 : UInt8).toNat = 1 := rfl
    omega
  rw [← general_outcome_eq, independent buf (staleBuf 0 0 0 (UInt8.ofNat s.sync.seqid.toNat)
    (UInt8.ofNat (s.sync.seqid.toNat / 256) + 1) 0), general_outcome_eq]
  apply respond_other_sequence s send t3 (stale_current short possible _ _ _ _ _ _)
  rwa [ne_eq, stale_sequence s short few half]

theorem sequence_decides (few : datagram.length < 32)
    (half : datagram.length = 31 → field8 datagram 30 = UInt8.ofNat s.sync.seqid.toNat) :
    28 ≤ datagram.length ∧ clockId datagram = s.ptpc.ptpServerId ∧ resetSync s.sync = s.sync := by
  have reset := outcome_is_reset s send t3 short independent possible few half
  -- a buffer that completes the sequence id must name the announced clock
  have server : ∀ clockTop, clockId ((staleBuf 0 0 clockTop (UInt8.ofNat s.sync.seqid.toNat)
      (UInt8.ofNat (s.sync.seqid.toNat / 256)) 0).receive datagram).bytes =
        s.ptpc.ptpServerId := by
    intro clockTop
    by_contra other
    have failed := respond_other_clock s send t3 (stale_current short possible _ _ _ _ _ _)
      ((stale_sequence s short few half clockTop _).mpr rfl) other
    have ret : (-1 : Int32) = 0 := congrArg GeneralCall.ret (failed.symm.trans (reset _))
    exact absurd ret (by decide)
  have long : 28 ≤ datagram.length := by
    by_contra missing
    have tops := clock_last_byte (received_room _ datagram) (received_room _ datagram)
      ((server 0).trans (server 1).symm)
    rw [received_byte _ datagram short, if_neg (by omega), received_byte _ datagram short,
      if_neg (by omega)] at tops
    rw [(stale_buf_bytes _ _ _ _ _ _).2.2.2.2.1, (stale_buf_bytes _ _ _ _ _ _).2.2.2.2.1] at tops
    exact absurd tops (by decide)
  refine ⟨long, ?_, ?_⟩
  · rw [← received_clock _ short long]
    exact server 0
  · have expected := respond_expected s send t3 (stale_current short possible _ _ _ _ _ _)
      ((stale_sequence s short few half 0 _).mpr rfl) (server 0)
    rw [reset] at expected
    have after := congrArg (fun call => call.state.sync) expected
    split_ifs at after with followUp delayResp
    · have state := congrArg PtpcSyncCtx.state after
      cases send <;> exact absurd state (by simp [followed, resetSync, ptpSyncStateReset, followUp])
    · have state := congrArg PtpcSyncCtx.state after
      exact absurd state (by simp [measured, resetSync, ptpSyncStateReset, delayResp])
    · exact after

omit independent possible in
/-- The two buffers differ in the last byte of the timestamp only. -/
theorem stale_stamps (few : datagram.length < 44)
    (same : tstampToNs (tstamp ((staleBuf 0 0 0 0 0 0).receive datagram).bytes) =
      tstampToNs (tstamp ((staleBuf 0 0 0 0 0 1).receive datagram).bytes)) : False := by
  have elsewhere : ∀ index, index ≠ 43 →
      ((staleBuf 0 0 0 0 0 0).receive datagram).bytes[index]? =
        ((staleBuf 0 0 0 0 0 1).receive datagram).bytes[index]? := by
    intro index away
    have written : (staleBuf 0 0 0 0 0 1).bytes = writeAt (staleBuf 0 0 0 0 0 0).bytes 43 [1] := rfl
    rw [received_get _ datagram short, received_get _ datagram short, written,
      write_at_get_outside _ 43 [1] index (by simp; omega)]
  have windows : ∀ offset count, offset + count ≤ 43 →
      slice ((staleBuf 0 0 0 0 0 0).receive datagram).bytes offset count =
        slice ((staleBuf 0 0 0 0 0 1).receive datagram).bytes offset count := by
    intro offset count before
    apply List.ext_getElem?
    intro index
    by_cases near : index < count
    · rw [slice_get _ _ _ _ near, slice_get _ _ _ _ near, elsewhere _ (by omega)]
    · rw [List.getElem?_eq_none, List.getElem?_eq_none] <;>
        simp only [slice, List.length_take] <;> omega
  have high : field16 ((staleBuf 0 0 0 0 0 0).receive datagram).bytes 34 =
      field16 ((staleBuf 0 0 0 0 0 1).receive datagram).bytes 34 := by
    rw [field16, field16, windows 34 2 (by omega)]
  have low : field32 ((staleBuf 0 0 0 0 0 0).receive datagram).bytes 36 =
      field32 ((staleBuf 0 0 0 0 0 1).receive datagram).bytes 36 := by
    rw [field32, field32, windows 36 4 (by omega)]
  have last := nanoseconds_last_byte (received_room _ datagram) (received_room _ datagram)
    (tstamp_nanoseconds high low same)
  rw [received_byte _ datagram short, if_neg (by omega), received_byte _ datagram short,
    if_neg (by omega), (stale_buf_bytes _ _ _ _ _ _).2.2.2.2.2.2.2,
    (stale_buf_bytes _ _ _ _ _ _).2.2.2.2.2.2.2] at last
  exact absurd last (by decide)

theorem carried_is_whole (long : 32 ≤ datagram.length)
    (sequence : seqid datagram = s.sync.seqid) (clock : clockId datagram = s.ptpc.ptpServerId)
    (carried : carries s.sync.state (msgtype datagram)) : 44 ≤ datagram.length := by
  by_contra few
  have expected : ∀ last, generalOutcome s (staleBuf 0 0 0 0 0 last) datagram send t3 =
      if s.sync.state = .sSync ∧ msgtype datagram = ptpMsgidFollowUp then
        followed s send t3
          (tstampToNs (tstamp ((staleBuf 0 0 0 0 0 last).receive datagram).bytes))
      else if s.sync.state = .sFollowUp ∧ msgtype datagram = ptpMsgidDelayResp then
        measured s (tstampToNs (tstamp ((staleBuf 0 0 0 0 0 last).receive datagram).bytes))
      else unchanged s := by
    intro last
    obtain ⟨-, -, kind⟩ := received_header (staleBuf 0 0 0 0 0 last) short (by omega)
    rw [general_outcome_eq, respond_expected s send t3 (stale_current short possible _ _ _ _ _ _)
      ((received_seqid _ short long).trans sequence)
      ((received_clock _ short (by omega)).trans clock), kind]
  have same := independent (staleBuf 0 0 0 0 0 0) (staleBuf 0 0 0 0 0 1)
  rw [expected 0, expected 1] at same
  split_ifs at same with followUp delayResp
  · exact stale_stamps short (by omega) (followed_time s send t3 _ _ same)
  · exact stale_stamps short (by omega) (measured_time s _ _ same)
  · rcases carried with follow | answer
    · exact followUp follow
    · exact delayResp answer

end Unsettled

theorem general_independent_iff (s : PtpState) (send : SendResult) (t3 : NsTime)
    {datagram : Bytes} (short : datagram.length ≤ ptpPacketBufSize) :
    (∀ first second, generalOutcome s first datagram send t3 =
      generalOutcome s second datagram send t3) ↔ generalSettled s datagram := by
  constructor
  · intro independent
    by_contra unsettled
    unfold generalSettled at unsettled
    push Not at unsettled
    obtain ⟨partly, possible, carried, half, resets⟩ := unsettled
    by_cases long : 32 ≤ datagram.length
    · obtain ⟨sequence, clock, forward⟩ := carried long
      have whole := carried_is_whole s send t3 short independent possible long sequence clock
        forward
      omega
    · obtain ⟨clocked, clock, reset⟩ := sequence_decides s send t3 short independent possible
        (by omega) half
      exact resets clocked (by omega) clock reset
  · exact fun settled => general_settled_independent s send t3 short settled

/-- No receiver depends on what the buffer held before exactly if the datagram
settles its outcome. -/
theorem stale_bytes_matter_iff (s : PtpState) (datagram : Bytes) (sender : UInt32)
    (t2 t3 : NsTime) (send : SendResult) (short : datagram.length ≤ ptpPacketBufSize) :
    ((∀ first second, announceOutcome s.ptpc first datagram sender =
        announceOutcome s.ptpc second datagram sender) ↔ announceSettled datagram) ∧
      ((∀ first second, syncOutcome s first datagram t2 = syncOutcome s second datagram t2) ↔
        syncSettled s datagram) ∧
      ((∀ first second, generalOutcome s first datagram send t3 =
        generalOutcome s second datagram send t3) ↔ generalSettled s datagram) :=
  ⟨announce_independent_iff s.ptpc sender short, sync_independent_iff s t2 short,
    general_independent_iff s send t3 short⟩

def sampleSynced : PtpState := ⟨sampleCtx, { zeroSync with state := .sSync, seqid := 0x0700 }⟩

theorem sample_whole_message :
    (∀ first second, announceOutcome sampleCtx first (sampleMsg ptpMsgidAnnounce 0) 7 =
        announceOutcome sampleCtx second (sampleMsg ptpMsgidAnnounce 0) 7) ∧
      (∀ first second, generalOutcome sampleSynced first (sampleMsg ptpMsgidAnnounce 0) .sent 1500 =
        generalOutcome sampleSynced second (sampleMsg ptpMsgidAnnounce 0) .sent 1500) := by
  have settled := stale_bytes_matter_iff sampleSynced (sampleMsg ptpMsgidAnnounce 0) 7 1000 1500
    .sent (by decide)
  exact ⟨settled.1.mpr (.inr (.inl (by decide))), settled.2.2.mpr (.inl (by decide))⟩

set_option maxRecDepth 5000 in
/-- An Announce cut behind its flags takes the clock identity of an older
message; an empty datagram makes the other two receivers handle the older message
again. -/
theorem sample_stale_message_is_used :
    (∃ first second, announceOutcome sampleCtx first [0x0b, 2, 0, 0, 0, 0, 2] 7 ≠
        announceOutcome sampleCtx second [0x0b, 2, 0, 0, 0, 0, 2] 7) ∧
      (∃ first second, syncOutcome sampleStart first [] 1000 ≠
        syncOutcome sampleStart second [] 1000) ∧
      (∃ first second, generalOutcome sampleSynced first [] .sent 1500 ≠
        generalOutcome sampleSynced second [] .sent 1500) := by
  refine ⟨⟨.zero, PacketBuf.zero.receive (sampleMsg ptpMsgidAnnounce 0), ?_⟩,
    ⟨.zero, PacketBuf.zero.receive (sampleMsg ptpMsgidSync 0), ?_⟩,
    ⟨.zero, PacketBuf.zero.receive (sampleMsg ptpMsgidFollowUp 5), ?_⟩⟩
  · intro same
    exact absurd (congrArg (fun outcome => outcome.2.ptpServerId) same) (by decide)
  · intro same
    exact absurd (congrArg (fun outcome => outcome.2.sync.state) same) (by decide)
  · intro same
    exact absurd (congrArg (fun call => call.request.isSome) same) (by decide)

end AoipCore.Ptp
