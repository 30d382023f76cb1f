import AoipCore.Library.Transducer
import AoipCore.Ptp.Measurement
import AoipCore.Ptp.StaleBuffer

/-!
# The synchronisation as a protocol

`exchange` is the state machine of one client with everything but the messages
taken away: which message starts an exchange, drops it, carries it on or
completes it. `protocolPass` adds the counter and the timer. The loop of the
source follows this protocol exactly, as long as datagrams are whole, sockets
work and the clock is read at least every two seconds; what follows for a
stream of messages is then a matter of the protocol alone.
-/

namespace AoipCore.Ptp

open ByteBuffer ControlLoop Transducer AoipCore.Host AoipCore.Timer

set_option autoImplicit false

/-- A message of version 2 and domain 0, as far as the client reads it; `own`
says that it comes from the announced clock. -/
inductive Heard where
  | sync (seq : UInt16)
  | general (kind : UInt8) (seq : UInt16) (own : Bool)
  deriving DecidableEq, Repr

structure Phase where
  state : PtpSyncState
  seqid : UInt16
  deriving DecidableEq, Repr

inductive Reaction where
  | ignored
  | started
  | dropped
  | refused
  | requested
  | measured
  deriving DecidableEq, Repr

def Reaction.restarts : Reaction → Bool
  | .ignored => false
  | .refused => false
  | _ => true

def Phase.react (phase : Phase) : Heard → Reaction
  | .sync _ => if phase.state = .sInit then .started else .ignored
  | .general kind seq own =>
      if seq ≠ phase.seqid then .dropped
      else if !own then .refused
      else if phase.state = .sSync ∧ kind = ptpMsgidFollowUp then .requested
      else if phase.state = .sFollowUp ∧ kind = ptpMsgidDelayResp then .measured
      else .ignored

def Phase.hear (phase : Phase) (message : Heard) : Phase :=
  match message, phase.react message with
  | .sync seq, .started => ⟨.sSync, seq⟩
  | .general _ _ _, .dropped => { phase with state := .sInit }
  | .general _ _ _, .requested => { phase with state := .sFollowUp }
  | _, _ => phase

/-! What each reaction to a general message takes. -/

theorem requested_needs {phase : Phase} {kind : UInt8} {seq : UInt16} {own : Bool}
    (reaction : phase.react (.general kind seq own) = .requested) :
    phase.state = .sSync ∧ kind = ptpMsgidFollowUp := by
  rw [Phase.react] at reaction
  split_ifs at reaction with sequence clock branch
  exact branch

theorem measured_needs {phase : Phase} {kind : UInt8} {seq : UInt16} {own : Bool}
    (reaction : phase.react (.general kind seq own) = .measured) :
    phase.state = .sFollowUp ∧ kind = ptpMsgidDelayResp := by
  rw [Phase.react] at reaction
  split_ifs at reaction with sequence clock other branch
  exact branch

theorem refused_needs {phase : Phase} {kind : UInt8} {seq : UInt16} {own : Bool}
    (reaction : phase.react (.general kind seq own) = .refused) : own = false := by
  rw [Phase.react] at reaction
  split_ifs at reaction with sequence clock
  simpa using clock

def exchange : Machine Phase Heard Reaction where
  hear := Phase.hear
  react := Phase.react

/-! ## Counter and timer -/

structure PtpSession where
  phase : Phase
  since : NsTime
  measured : Nat
  deriving DecidableEq, Repr

structure Arrival where
  now : NsTime
  messages : List Heard
  deriving DecidableEq, Repr

def sessionStart (start : NsTime) : PtpSession where
  phase := ⟨.sInit, 0⟩
  since := start
  measured := 0

def PtpSession.after (session : PtpSession) (arrival : Arrival) : PtpSession :=
  let reactions := exchange.reactions session.phase arrival.messages
  { phase := exchange.final session.phase arrival.messages
    since := if reactions.any Reaction.restarts then arrival.now else session.since
    measured := session.measured + reactions.count .measured }

def protocolPass : Body PtpSession Arrival SyncExit := fun session arrival =>
  if session.measured = 10 then .leave .synced session
  else if .refused ∈ exchange.reactions session.phase arrival.messages then
    .leave .failed (session.after arrival)
  else if nsSub arrival.now (session.after arrival).since ≥ timeoutPtpTimer then
    .leave .timeout (session.after arrival)
  else .next (session.after arrival)

/-! ## What the passes of the source bring -/

def eventIn : RecvResult → List Heard
  | .datagram bytes => if isSync bytes then [.sync (seqid bytes)] else []
  | _ => []

def generalIn (serverId : UInt64) : RecvResult → List Heard
  | .datagram bytes =>
      if ver bytes = 2 ∧ ndomain bytes = 0 then
        [.general (msgtype bytes) (seqid bytes) (decide (clockId bytes = serverId))]
      else []
  | _ => []

def arrivalOf (serverId : UInt64) (pass : SyncPass) : Arrival where
  now := pass.poll.now
  messages := eventIn pass.poll.event ++ generalIn serverId pass.poll.general

def phaseOf (sync : PtpcSyncCtx) : Phase := ⟨sync.state, sync.seqid⟩

def sessionOf (s : SyncLoopState) : PtpSession where
  phase := phaseOf s.ptp.sync
  since := s.ptp.sync.timeoutTimer
  measured := s.ptp.sync.syncedCount.toNat

/-- The call did not fail, and a datagram it delivered reaches to the end of
the timestamp and fits the buffer. -/
def Whole : RecvResult → Prop
  | .datagram bytes => 44 ≤ bytes.length ∧ bytes.length ≤ ptpPacketBufSize
  | .again => True
  | .failed => False

instance decidableWhole : (received : RecvResult) → Decidable (Whole received)
  | .datagram _ => inferInstanceAs (Decidable (_ ∧ _))
  | .again => .isTrue trivial
  | .failed => .isFalse id

/-- The pass is made without a stop or a failing socket. -/
def Undisturbed (pass : SyncPass) : Prop :=
  pass.stop = false ∧ Whole pass.poll.event ∧ Whole pass.poll.general ∧ pass.poll.send ≠ .failed

instance (pass : SyncPass) : Decidable (Undisturbed pass) :=
  inferInstanceAs (Decidable (_ ∧ _ ∧ _ ∧ _))

theorem whole_not_failed {received : RecvResult} (whole : Whole received) : received ≠ .failed := by
  rintro rfl
  exact whole

/-- Each pass is undisturbed and reads the clock less than two seconds after
the one before. -/
def Steady : NsTime → List SyncPass → Prop
  | _, [] => True
  | last, pass :: rest =>
      Undisturbed pass ∧
        (last ≤ pass.poll.now ∧ nsSub pass.poll.now last < timeoutPtpTimer) ∧
        Steady pass.poll.now rest

instance decidableSteady : (last : NsTime) → (passes : List SyncPass) → Decidable (Steady last passes)
  | _, [] => .isTrue trivial
  | _, pass :: rest =>
      have := decidableSteady pass.poll.now rest
      inferInstanceAs (Decidable (_ ∧ _ ∧ _))

/-! ## One pass -/

/-- `ptpc_recv_sync_msg` reacts to the event message as the machine does. -/
theorem event_reactions (s : PtpState) (poll : PtpPoll) (whole : Whole poll.event) :
    phaseOf (syncAfterEvent s poll) = exchange.final (phaseOf s.sync) (eventIn poll.event) ∧
      exchange.reactions (phaseOf s.sync) (eventIn poll.event) ∈
        if acceptsSync s poll then [[Reaction.started]] else [[], [Reaction.ignored]] := by
  unfold syncAfterEvent acceptsSync eventBuf
  cases event : poll.event with
  | again => simp [eventIn, phaseOf]
  | failed => simp [eventIn, phaseOf]
  | datagram bytes =>
      rw [event] at whole
      obtain ⟨long, short⟩ := whole
      obtain ⟨version, domain, kind⟩ := received_header s.ptpc.rxbuf short (by omega)
      have sequence := received_seqid s.ptpc.rxbuf short (by omega)
      have same : isSync (s.ptpc.rxbuf.receive bytes).bytes ↔ isSync bytes := by
        unfold isSync
        rw [version, domain, kind]
      by_cases sync : isSync bytes
      · by_cases initial : s.sync.state = .sInit
        · simp [eventIn, same, sync, initial, sequence, exchange, Phase.hear, Phase.react, phaseOf]
        · simp [eventIn, same, sync, initial, exchange, Phase.hear, Phase.react, phaseOf]
      · simp [eventIn, same, sync, phaseOf]

/-- The branch of `ptpc_recv_general_packet` behind each reaction. -/
def Reaction.kind : Reaction → GeneralKind
  | .ignored => .ignored
  | .started => .ignored
  | .dropped => .reset
  | .refused => .newServer
  | .requested => .followUp
  | .measured => .delayResp

/-- `ptpc_recv_general_packet` takes the branch of the machine's reaction. -/
theorem general_reactions (s : PtpState) (poll : PtpPoll) (whole : Whole poll.general) :
    (generalIn s.ptpc.ptpServerId poll.general = [] ∧ generalKind s poll = .ignored) ∨
      ∃ kind seq own, generalIn s.ptpc.ptpServerId poll.general = [.general kind seq own] ∧
        generalKind s poll =
          ((phaseOf (syncAfterEvent s poll)).react (.general kind seq own)).kind := by
  unfold generalKind
  cases general : poll.general with
  | again => exact .inl ⟨rfl, rfl⟩
  | failed => rw [general] at whole; exact whole.elim
  | datagram bytes =>
      rw [general] at whole
      obtain ⟨long, short⟩ := whole
      obtain ⟨version, domain, kind⟩ := received_header (eventBuf s poll) short (by omega)
      have sequence := received_seqid (eventBuf s poll) short (by omega)
      have clock := received_clock (eventBuf s poll) short (by omega)
      have message : (parsed s poll).ptpc.rxbuf = (eventBuf s poll).receive bytes := by
        simp [parsed, generalBuf, general]
      have server : (parsed s poll).ptpc.ptpServerId = s.ptpc.ptpServerId := rfl
      have sync : (parsed s poll).sync = syncAfterEvent s poll := rfl
      unfold classify
      dsimp only
      rw [message, version, domain, kind, sequence, clock, server, sync]
      by_cases header : ver bytes = 2 ∧ ndomain bytes = 0
      · right
        refine ⟨_, _, _, if_pos header, ?_⟩
        rw [if_neg (by tauto)]
        unfold Phase.react phaseOf
        simp only [Bool.not_eq_eq_eq_not, Bool.not_true, decide_eq_false_iff_not, ne_eq]
        split_ifs <;> rfl
      · left
        refine ⟨if_neg header, ?_⟩
        rw [if_pos (by tauto)]

/-! The decoded timestamps stay folded: the fields of an accepted message's
successor are read off for a state taken apart. -/

theorem accept_follow_up_fields (s : PtpState) (send : SendResult) (t3 : NsTime)
    (sends : send ≠ .failed) :
    let sync := (acceptFollowUp s send t3).state.sync
    sync.state = .sFollowUp ∧ sync.seqid = s.sync.seqid ∧ sync.now = s.sync.now ∧
      sync.timeoutTimer = s.sync.now := by
  obtain ⟨ptpc, sync⟩ := s
  cases sync
  cases send with
  | sent => exact ⟨rfl, rfl, rfl, rfl⟩
  | again => exact ⟨rfl, rfl, rfl, rfl⟩
  | failed => exact absurd rfl sends

theorem accept_delay_resp_fields (s : PtpState) :
    let sync := (acceptDelayResp s).state.sync
    sync.state = s.sync.state ∧ sync.seqid = s.sync.seqid ∧ sync.now = s.sync.now ∧
      sync.timeoutTimer = s.sync.now := by
  obtain ⟨ptpc, sync⟩ := s
  cases sync
  exact ⟨rfl, rfl, rfl, rfl⟩

theorem general_call_phase (s : PtpState) (poll : PtpPoll) (sends : poll.send ≠ .failed) :
    phaseOf (generalCall s poll).state.sync =
      match generalKind s poll with
      | .reset => { phaseOf (syncAfterEvent s poll) with state := .sInit }
      | .followUp => { phaseOf (syncAfterEvent s poll) with state := .sFollowUp }
      | _ => phaseOf (syncAfterEvent s poll) := by
  rw [general_call_eq]
  cases kind : generalKind s poll with
  | ignored => rfl
  | failed => rfl
  | newServer => rfl
  | reset => rfl
  | followUp =>
      obtain ⟨state, sequence, -⟩ :=
        accept_follow_up_fields (parsed s poll) poll.send poll.t3 sends
      dsimp only
      rw [phaseOf, state, sequence]
      rfl
  | delayResp =>
      obtain ⟨state, sequence, -⟩ := accept_delay_resp_fields (parsed s poll)
      dsimp only
      rw [phaseOf, state, sequence]
      rfl

theorem general_call_timer (s : PtpState) (poll : PtpPoll) (sends : poll.send ≠ .failed) :
    (generalCall s poll).state.sync.now = poll.now ∧
      (generalCall s poll).state.sync.timeoutTimer =
        if generalKind s poll ∈ [GeneralKind.reset, .followUp, .delayResp] then poll.now
        else (syncAfterEvent s poll).timeoutTimer := by
  have now : (parsed s poll).sync.now = poll.now := (sync_after_event_timer s poll).1
  rw [general_call_eq]
  cases kind : generalKind s poll with
  | ignored => exact ⟨now, rfl⟩
  | failed => exact ⟨now, rfl⟩
  | newServer => exact ⟨now, rfl⟩
  | reset => exact ⟨now, now⟩
  | followUp =>
      obtain ⟨-, -, reading, timer⟩ :=
        accept_follow_up_fields (parsed s poll) poll.send poll.t3 sends
      rw [if_pos (by decide)]
      exact ⟨reading.trans now, timer.trans now⟩
  | delayResp =>
      obtain ⟨-, -, reading, timer⟩ := accept_delay_resp_fields (parsed s poll)
      rw [if_pos (by decide)]
      exact ⟨reading.trans now, timer.trans now⟩

theorem general_call_negative_iff (s : PtpState) (poll : PtpPoll) (sends : poll.send ≠ .failed) :
    (generalCall s poll).ret < 0 ↔ generalKind s poll ∈ [GeneralKind.failed, .newServer] := by
  rw [general_call_eq]
  cases kind : generalKind s poll with
  | ignored => simp
  | failed => simp
  | newServer => simp
  | reset => simp [resetCall]
  | followUp => simp [accept_follow_up_eq, sends]
  | delayResp => simp [accept_delay_resp_eq]

theorem hear_general (phase : Phase) (kind : UInt8) (seq : UInt16) (own : Bool) :
    phase.hear (.general kind seq own) =
      match phase.react (.general kind seq own) with
      | .dropped => { phase with state := .sInit }
      | .requested => { phase with state := .sFollowUp }
      | _ => phase := by
  unfold Phase.hear
  cases phase.react (.general kind seq own) <;> rfl

theorem general_not_started (phase : Phase) (kind : UInt8) (seq : UInt16) (own : Bool) :
    phase.react (.general kind seq own) ≠ .started := by
  unfold Phase.react
  dsimp only
  split_ifs <;> simp

theorem event_reactions_seen {s : PtpState} {poll : PtpPoll} (whole : Whole poll.event) :
    let reactions := exchange.reactions (phaseOf s.sync) (eventIn poll.event)
    reactions.any Reaction.restarts = acceptsSync s poll ∧ reactions.count .measured = 0 ∧
      .refused ∉ reactions := by
  have seen := (event_reactions s poll whole).2
  split_ifs at seen with accepted
  · rw [List.mem_singleton] at seen
    simp [seen, accepted, Reaction.restarts]
  · rcases List.mem_pair.mp seen with none | ignored
    · simp [none, accepted]
    · simp [ignored, accepted, Reaction.restarts]

/-- A pass of the source leaves the session that the protocol prescribes, and
the receiver fails exactly when the protocol refuses a message. -/
theorem session_after_pass (s : SyncLoopState) (pass : SyncPass) (ret : Int32)
    (undisturbed : Undisturbed pass) (room : s.ptp.sync.syncedCount.toNat < 255) :
    (sessionOf s).after (arrivalOf s.ptp.ptpc.ptpServerId pass) =
        sessionOf { ptp := (generalCall s.ptp pass.poll).state, ret := ret } ∧
      (.refused ∈ exchange.reactions (sessionOf s).phase
          (arrivalOf s.ptp.ptpc.ptpServerId pass).messages ↔
        (generalCall s.ptp pass.poll).ret < 0) := by
  obtain ⟨-, event, general, sends⟩ := undisturbed
  obtain ⟨phase, -⟩ := event_reactions s.ptp pass.poll event
  obtain ⟨restarts, unmeasured, accepted⟩ := event_reactions_seen (s := s.ptp) event
  obtain ⟨-, timer⟩ := sync_after_event_timer s.ptp pass.poll
  have after := general_call_phase s.ptp pass.poll sends
  have afterTimer := (general_call_timer s.ptp pass.poll sends).2
  have afterCount := general_call_count s.ptp pass.poll
  rw [general_call_negative_iff _ _ sends]
  unfold PtpSession.after sessionOf arrivalOf
  dsimp only
  rw [final_append, reactions_append, ← phase]
  rcases general_reactions s.ptp pass.poll general with ⟨none, kind⟩ |
    ⟨kind, seq, own, one, branch⟩
  · rw [kind] at after afterTimer afterCount
    rw [none, kind, after, afterTimer, afterCount]
    simp [restarts, unmeasured, accepted, timer]
  · have moved : exchange.final (phaseOf (syncAfterEvent s.ptp pass.poll)) [.general kind seq own] =
        (phaseOf (syncAfterEvent s.ptp pass.poll)).hear (.general kind seq own) := rfl
    have shown : exchange.reactions (phaseOf (syncAfterEvent s.ptp pass.poll))
          [.general kind seq own] =
        [(phaseOf (syncAfterEvent s.ptp pass.poll)).react (.general kind seq own)] := rfl
    have other := general_not_started (phaseOf (syncAfterEvent s.ptp pass.poll)) kind seq own
    rw [one, moved, shown, hear_general, after, afterTimer, afterCount, branch]
    simp only [List.any_append, restarts, List.count_append, unmeasured, List.mem_append, accepted,
      false_or]
    cases reaction : (phaseOf (syncAfterEvent s.ptp pass.poll)).react (.general kind seq own) with
    | started => exact absurd reaction other
    | ignored => simp [Reaction.kind, Reaction.restarts, timer]
    | dropped => simp [Reaction.kind, Reaction.restarts]
    | refused => simp [Reaction.kind, Reaction.restarts, timer]
    | requested => simp [Reaction.kind, Reaction.restarts]
    | measured =>
        have one : (1 : UInt8).toNat = 1 := rfl
        simp [Reaction.kind, Reaction.restarts, UInt8.toNat_add, one]
        omega

/-! ## Whole runs -/

/-- The loop is between two passes: it has not expired, and counts to ten. -/
structure Following (serverId : UInt64) (s : SyncLoopState) : Prop where
  server : s.ptp.ptpc.ptpServerId = serverId
  counted : s.ptp.sync.syncedCount.toNat ≤ 10
  behind : s.ptp.sync.timeoutTimer ≤ s.ptp.sync.now
  short : nsSub s.ptp.sync.now s.ptp.sync.timeoutTimer < timeoutPtpTimer

theorem following_start (ptpc : PtpcCtx) (start : NsTime) :
    Following ptpc.ptpServerId (syncLoopStart ptpc start) where
  server := rfl
  counted := Nat.zero_le 10
  behind := UInt64.le_refl start
  short := by
    change start - start < timeoutPtpTimer
    rw [UInt64.sub_self]
    decide

/-- With readings that close together, the 32 bits kept of the elapsed time
are all of it. -/
theorem stored_test_exact {s : PtpState} {poll : PtpPoll} {next : PtpState}
    (behind : s.sync.timeoutTimer ≤ s.sync.now)
    (short : nsSub s.sync.now s.sync.timeoutTimer < timeoutPtpTimer)
    (later : s.sync.now ≤ poll.now) (soon : nsSub poll.now s.sync.now < timeoutPtpTimer)
    (now : next.sync.now = poll.now)
    (timer : next.sync.timeoutTimer = poll.now ∨ next.sync.timeoutTimer = s.sync.timeoutTimer) :
    next.sync.timeoutTimer ≤ next.sync.now ∧
      (storedTimedOut (storedElapsed next.sync) = true ↔
        nsSub next.sync.now next.sync.timeoutTimer ≥ timeoutPtpTimer) := by
  have limit : timeoutPtpTimer.toNat = 2000000000 := by decide
  rw [UInt64.le_iff_toNat_le] at behind later
  rw [nsSub, UInt64.lt_iff_toNat_lt, UInt64.toNat_sub_of_le _ _ (UInt64.le_iff_toNat_le.mpr behind),
    limit] at short
  rw [nsSub, UInt64.lt_iff_toNat_lt, UInt64.toNat_sub_of_le _ _ (UInt64.le_iff_toNat_le.mpr later),
    limit] at soon
  have order : next.sync.timeoutTimer ≤ next.sync.now := by
    rw [UInt64.le_iff_toNat_le, now]
    rcases timer with timer | timer
    · rw [timer]
    · rw [timer]
      omega
  refine ⟨order, ?_⟩
  have elapsed : (nsSub next.sync.now next.sync.timeoutTimer).toNat =
      next.sync.now.toNat - next.sync.timeoutTimer.toNat := UInt64.toNat_sub_of_le _ _ order
  rw [timed_out_iff, ge_iff_le, UInt64.le_iff_toNat_le, limit, elapsedLow, elapsed,
    Nat.mod_eq_of_lt]
  rw [now]
  rcases timer with timer | timer
  · rw [timer]
    omega
  · rw [timer]
    omega

theorem sync_pass_follows {serverId : UInt64} {s : SyncLoopState} {pass : SyncPass}
    (following : Following serverId s) (undisturbed : Undisturbed pass)
    (later : s.ptp.sync.now ≤ pass.poll.now)
    (soon : nsSub pass.poll.now s.ptp.sync.now < timeoutPtpTimer) :
    protocolPass (sessionOf s) (arrivalOf serverId pass) = (syncLoopPass s pass).map sessionOf ∧
      ∀ next, syncLoopPass s pass = .next next →
        Following serverId next ∧ next.ptp.sync.now = pass.poll.now := by
  obtain ⟨rfl, counted, behind, short⟩ := following
  have count : (sessionOf s).measured = s.ptp.sync.syncedCount.toNat := rfl
  have ten : (10 : UInt8).toNat = 10 := rfl
  unfold protocolPass syncLoopPass
  rw [undisturbed.1, if_neg Bool.false_ne_true, count]
  by_cases synced : s.ptp.sync.syncedCount = 10
  · rw [if_pos synced, if_pos (by rw [synced, ten])]
    exact ⟨rfl, by simp⟩
  have unsynced : s.ptp.sync.syncedCount.toNat ≠ 10 := fun same =>
    synced (UInt8.toNat_inj.mp (same.trans ten.symm))
  rw [if_neg synced, if_neg unsynced]
  obtain ⟨same, refused⟩ := session_after_pass s pass
    (storedElapsed (generalCall s.ptp pass.poll).state.sync) undisturbed (by omega)
  obtain ⟨now, timer⟩ := general_call_timer s.ptp pass.poll undisturbed.2.2.2
  have polled : ¬(syncCall s.ptp pass.poll).1 < 0 := by
    rw [sync_call_negative]
    exact whole_not_failed undisturbed.2.1
  unfold ptpPass
  rw [if_neg polled]
  by_cases failed : (generalCall s.ptp pass.poll).ret < 0
  · rw [if_pos failed, if_pos (refused.mpr failed), same]
    exact ⟨rfl, by simp⟩
  rw [if_neg failed, if_neg (fun present => failed (refused.mp present)), same]
  obtain ⟨order, test⟩ := stored_test_exact behind short later soon now (by
    rw [timer, (sync_after_event_timer s.ptp pass.poll).2]
    split_ifs <;> simp)
  dsimp only
  by_cases expired : storedTimedOut (storedElapsed (generalCall s.ptp pass.poll).state.sync) = true
  · rw [if_pos expired]
    rw [now] at test
    exact ⟨if_pos (test.mp expired), by simp⟩
  · rw [if_neg expired]
    have running := fun passed => expired (test.mpr passed)
    constructor
    · rw [now] at running
      exact if_neg running
    intro next step
    obtain rfl := Flow.next.inj step
    refine ⟨⟨general_call_keeps_server s.ptp pass.poll, ?_, order, ?_⟩, now⟩
    · have grown := general_call_count s.ptp pass.poll
      dsimp only
      rw [grown]
      split_ifs
      · rw [UInt8.toNat_add, UInt8.toNat_one]
        omega
      · exact counted
    · exact UInt64.not_le.mp running

/-- `ptpc_sync_loop` makes the passes of the protocol and leaves where it
does, for the same reason and with the same session. -/
theorem sync_loop_follows_protocol (ptpc : PtpcCtx) (start : NsTime) (passes : List SyncPass)
    (steady : Steady start passes) :
    run protocolPass (sessionStart start) (passes.map (arrivalOf ptpc.ptpServerId)) =
      (ptpcSyncLoop ptpc start passes).map sessionOf := by
  refine run_corresponds sessionOf (arrivalOf ptpc.ptpServerId)
    (fun s passes => Following ptpc.ptpServerId s ∧ Steady s.ptp.sync.now passes) ?_
    (syncLoopStart ptpc start) passes ⟨following_start ptpc start, steady⟩
  intro s pass rest admitted
  obtain ⟨following, undisturbed, ⟨later, soon⟩, onward⟩ := admitted
  obtain ⟨same, next⟩ := sync_pass_follows following undisturbed later soon
  refine ⟨same, ?_⟩
  intro reached step
  obtain ⟨kept, now⟩ := next reached step
  rw [now]
  exact ⟨kept, onward⟩

end AoipCore.Ptp
