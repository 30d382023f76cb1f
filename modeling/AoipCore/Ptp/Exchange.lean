import AoipCore.Ptp.Pass

/-!
# Where the timestamps of an exchange come from

Every statement here is about the passes of a PTP loop in the order they were
made, from the zeroed `sync` on. `Evidence` is the invariant that carries them:
outside `S_INIT` some pass accepted the Sync whose sequence id is held and none
has accepted one since, and in `S_FOLLOW_UP` a pass from then on accepted the
Follow_Up that gave `t1`, sent the Delay_Req and read `t3`.
-/

namespace AoipCore.Ptp

open ByteBuffer ControlLoop AoipCore.Host AoipCore.Timer

set_option autoImplicit false

/-- `accepting` is the last pass of `past` that moved `S_INIT` to `S_SYNC`. -/
structure LastAccept (past before since : List PtpPassed) (accepting : PtpPassed) : Prop where
  split : past = before ++ accepting :: since
  accepted : acceptsSync accepting.1 accepting.2 = true
  noneSince : ∀ pass ∈ since, acceptsSync pass.1 pass.2 = false

def acceptedSeqid (pass : PtpPassed) : UInt16 := seqid (eventBuf pass.1 pass.2).bytes

def generalMsg (pass : PtpPassed) : Bytes := (generalBuf pass.1 pass.2).bytes

/-- What `t1` and `t3` rest on: the pass accepted a Follow_Up of the held
sequence id from the announced clock, decoded its timestamp into `t1`, handed a
Delay_Req with the same sequence id to `sendto` and then read `t3`. -/
structure FollowUpEvidence (sync : PtpcSyncCtx) (serverId : UInt64) (pass : PtpPassed) : Prop where
  accepted : acceptsFollowUp pass.1 pass.2 = true
  kind : msgtype (generalMsg pass) = ptpMsgidFollowUp
  sequence : seqid (generalMsg pass) = sync.seqid
  clock : clockId (generalMsg pass) = serverId
  t1 : sync.t1 = tstampToNs (tstamp (generalMsg pass))
  request : ∃ datagram, (generalCall pass.1 pass.2).request = some datagram ∧
    msgtype datagram = ptpMsgidDelayReq ∧ seqid datagram = sync.seqid
  t3 : sync.t3 = pass.2.t3

def Evidence (past : List PtpPassed) (sync : PtpcSyncCtx) (serverId : UInt64) : Prop :=
  sync.state ≠ .sInit → ∃ before accepting since,
    LastAccept past before since accepting ∧ acceptedSeqid accepting = sync.seqid ∧
      (sync.state = .sFollowUp →
        ∃ pass ∈ accepting :: since, FollowUpEvidence sync serverId pass)

theorem last_accept_extend {past before since : List PtpPassed} {accepting pass : PtpPassed}
    (last : LastAccept past before since accepting)
    (other : acceptsSync pass.1 pass.2 = false) :
    LastAccept (past ++ [pass]) before (since ++ [pass]) accepting where
  split := by rw [last.split]; simp
  accepted := last.accepted
  noneSince := by
    intro later member
    rcases List.mem_append.mp member with earlier | newest
    · exact last.noneSince later earlier
    · rw [List.mem_singleton.mp newest]
      exact other

theorem last_accept_now (past : List PtpPassed) (pass : PtpPassed)
    (accepted : acceptsSync pass.1 pass.2 = true) :
    LastAccept (past ++ [pass]) past [] pass where
  split := rfl
  accepted := accepted
  noneSince := by simp

/-- The evidence speaks of the state, the sequence id, `t1` and `t3` only. -/
theorem evidence_congr {past : List PtpPassed} {sync other : PtpcSyncCtx} {serverId : UInt64}
    (evidence : Evidence past sync serverId) (state : other.state = sync.state)
    (sequence : other.seqid = sync.seqid) (t1 : other.t1 = sync.t1) (t3 : other.t3 = sync.t3) :
    Evidence past other serverId := by
  intro started
  rw [state] at started
  obtain ⟨before, accepting, since, last, accepted, followed⟩ := evidence started
  refine ⟨before, accepting, since, last, accepted.trans sequence.symm, ?_⟩
  intro followUp
  rw [state] at followUp
  obtain ⟨pass, member, found⟩ := followed followUp
  refine ⟨pass, member, ?_⟩
  exact
    { accepted := found.accepted
      kind := found.kind
      sequence := found.sequence.trans sequence.symm
      clock := found.clock
      t1 := t1.trans found.t1
      request := by rw [sequence]; exact found.request
      t3 := t3.trans found.t3 }

theorem evidence_extend {past : List PtpPassed} {sync : PtpcSyncCtx} {serverId : UInt64}
    (evidence : Evidence past sync serverId) (pass : PtpPassed)
    (other : acceptsSync pass.1 pass.2 = false) : Evidence (past ++ [pass]) sync serverId := by
  intro started
  obtain ⟨before, accepting, since, last, sequence, followed⟩ := evidence started
  refine ⟨before, accepting, since ++ [pass], last_accept_extend last other, sequence, ?_⟩
  intro followUp
  obtain ⟨found, member, rest⟩ := followed followUp
  exact ⟨found, List.mem_append_left [pass] member, rest⟩

/-- Polling for a Sync leaves everything the evidence speaks of as it was,
unless it accepts one, and then the new Sync is the last one accepted. -/
theorem evidence_after_event {past : List PtpPassed} {s : PtpState} {serverId : UInt64}
    (evidence : Evidence past s.sync serverId) (poll : PtpPoll) :
    Evidence (past ++ [(s, poll)]) (syncAfterEvent s poll) serverId := by
  unfold syncAfterEvent
  split_ifs with accepted
  · intro _
    exact ⟨past, (s, poll), [], last_accept_now past (s, poll) accepted, rfl, by simp⟩
  · have extended := evidence_extend evidence (s, poll) (by simpa using accepted)
    exact evidence_congr extended rfl rfl rfl rfl

theorem built_delay_req_fields (sync : PtpcSyncCtx) (buf : PacketBuf) :
    msgtype ((buildPtpDelayReqMsg sync buf).bytes.take ptpDelayReqSize) = ptpMsgidDelayReq ∧
      seqid ((buildPtpDelayReqMsg sync buf).bytes.take ptpDelayReqSize) = sync.seqid := by
  have room : 256 ≤ buf.bytes.length := buf.room
  constructor
  · have first : ((buildPtpDelayReqMsg sync buf).bytes.take ptpDelayReqSize)[0]? =
        some ptpMsgidDelayReq := by
      rw [List.getElem?_take_of_lt (by decide)]
      simp only [buildPtpDelayReqMsg, PacketBuf.put16, PacketBuf.put]
      rw [write_at_get_outside _ _ _ _ (by simp), write_at_get_outside _ _ _ _ (by simp),
        write_at_get_outside _ _ _ _ (by simp)]
      exact write_at_get_inside _ 0 [ptpMsgidDelayReq] 0 (by simp)
        (by simp only [write_at_length]; omega)
    simp only [msgtype, field8, List.getD_eq_getElem?_getD, first]
    decide
  · have inside : 30 + 2 ≤ ptpDelayReqSize := by decide
    have taken : seqid ((buildPtpDelayReqMsg sync buf).bytes.take ptpDelayReqSize) =
        seqid (buildPtpDelayReqMsg sync buf).bytes := by
      rw [seqid, seqid, field16, field16, slice_take _ inside]
    rw [taken]
    simp only [buildPtpDelayReqMsg, PacketBuf.put16, PacketBuf.put]
    rw [seqid, field16, slice_write_outside _ _ _ _ _ (by simp)]
    apply field16_write
    simp only [write_at_length]
    omega

theorem delay_req_fields (s : PtpState) :
    msgtype ((delayReqBuf s).bytes.take ptpDelayReqSize) = ptpMsgidDelayReq ∧
      seqid ((delayReqBuf s).bytes.take ptpDelayReqSize) = s.sync.seqid := by
  rw [← (follow_up_sync_fields s).1, delayReqBuf]
  exact built_delay_req_fields (followUpSync s) s.ptpc.txbuf

theorem evidence_after_follow_up {past : List PtpPassed} {s : PtpState} (poll : PtpPoll)
    (evidence : Evidence (past ++ [(s, poll)]) (syncAfterEvent s poll) s.ptpc.ptpServerId)
    (called : poll.event ≠ .failed) (kind : generalKind s poll = .followUp) :
    Evidence (past ++ [(s, poll)]) (generalCall s poll).state.sync s.ptpc.ptpServerId := by
  have classified := kind_is_classified s poll (.inl kind)
  rw [kind] at classified
  obtain ⟨matching, held, followUp⟩ := classify_follow_up (parsed s poll) classified.symm
  have message : (parsed s poll).ptpc.rxbuf.bytes = generalMsg (s, poll) := rfl
  rw [message] at matching followUp
  have heldSync : (syncAfterEvent s poll).state = .sSync := held
  obtain ⟨before, accepting, since, last, sequence, -⟩ := evidence (by rw [heldSync]; decide)
  have call : generalCall s poll = acceptFollowUp (parsed s poll) poll.send poll.t3 := by
    rw [general_call_eq, kind]
  rw [accept_follow_up_eq] at call
  have newest : (s, poll) ∈ accepting :: since := by
    have ends := congrArg List.getLast? last.split
    rw [List.getLast?_concat, List.getLast?_append_of_ne_nil _ (by simp)] at ends
    exact List.mem_of_getLast? ends.symm
  have request := delay_req_fields (parsed s poll)
  obtain ⟨sameSeqid, sameState, -⟩ := follow_up_sync_fields (parsed s poll)
  intro _
  rw [call]
  dsimp only
  split_ifs with failed
  · refine ⟨before, accepting, since, last, sequence.trans sameSeqid.symm, ?_⟩
    intro reached
    rw [sameState, held] at reached
    exact absurd reached (by decide)
  · refine ⟨before, accepting, since, last, sequence.trans sameSeqid.symm, ?_⟩
    intro _
    refine ⟨(s, poll), newest, ?_⟩
    exact
      { accepted := by simp [acceptsFollowUp, called, kind]
        kind := followUp
        sequence := matching.sequence.trans sameSeqid.symm
        clock := matching.clock
        t1 := by rw [follow_up_sync_t1, message]
        request := ⟨(delayReqBuf (parsed s poll)).bytes.take ptpDelayReqSize, by rw [call],
          request.1, request.2.trans sameSeqid.symm⟩
        t3 := rfl }

theorem evidence_after_delay_resp {past : List PtpPassed} {s : PtpState} (poll : PtpPoll)
    (evidence : Evidence (past ++ [(s, poll)]) (syncAfterEvent s poll) s.ptpc.ptpServerId)
    (kind : generalKind s poll = .delayResp) :
    Evidence (past ++ [(s, poll)]) (generalCall s poll).state.sync s.ptpc.ptpServerId := by
  obtain ⟨sequence, state, -, t1, t3⟩ := delay_resp_sync_fields (parsed s poll)
  rw [general_call_eq, kind]
  dsimp only
  rw [accept_delay_resp_eq]
  dsimp only
  exact evidence_congr evidence state sequence t1 t3

theorem evidence_after_general {past : List PtpPassed} {s : PtpState} (poll : PtpPoll)
    (evidence : Evidence (past ++ [(s, poll)]) (syncAfterEvent s poll) s.ptpc.ptpServerId)
    (called : poll.event ≠ .failed) :
    Evidence (past ++ [(s, poll)]) (generalCall s poll).state.sync s.ptpc.ptpServerId := by
  cases kind : generalKind s poll with
  | followUp => exact evidence_after_follow_up poll evidence called kind
  | delayResp => exact evidence_after_delay_resp poll evidence kind
  | reset =>
      intro started
      rw [general_call_eq, kind] at started
      exact absurd rfl started
  | ignored => rw [general_call_eq, kind]; exact evidence
  | failed => rw [general_call_eq, kind]; exact evidence
  | newServer => rw [general_call_eq, kind]; exact evidence

theorem general_call_keeps_server (s : PtpState) (poll : PtpPoll) :
    (generalCall s poll).state.ptpc.ptpServerId = s.ptpc.ptpServerId := by
  rw [general_call_eq]
  cases generalKind s poll with
  | followUp => dsimp only; rw [accept_follow_up_eq]; rfl
  | delayResp =>
      dsimp only
      rw [accept_delay_resp_eq]
      exact (update_keeps (parsed s poll).ptpc _).1
  | reset => rfl
  | ignored => rfl
  | failed => rfl
  | newServer => rfl

theorem history_keeps_server {ptpc : PtpcCtx} {now : NsTime} {past : List PtpPassed} {s : PtpState}
    (history : History ptpPass (ptpLoopStart ptpc now) past s) :
    s.ptpc.ptpServerId = ptpc.ptpServerId := by
  apply history_invariant (fun s => s.ptpc.ptpServerId = ptpc.ptpServerId) rfl _ history
  intro s poll next kept step
  obtain ⟨-, -, rfl⟩ := pass_falls_through s next poll step
  rw [general_call_keeps_server, kept]

theorem history_evidence {ptpc : PtpcCtx} {now : NsTime} {past : List PtpPassed} {s : PtpState}
    (history : History ptpPass (ptpLoopStart ptpc now) past s) :
    Evidence past s.sync ptpc.ptpServerId := by
  induction history with
  | start =>
      intro started
      exact absurd rfl started
  | @pass past s next prior poll step ih =>
      obtain ⟨called, -, rfl⟩ := pass_falls_through s next poll step
      rw [← history_keeps_server prior] at ih ⊢
      exact evidence_after_general poll (evidence_after_event ih poll) called

/-- The states a PTP loop leaves behind: between two passes, after the call of
`ptpc_recv_sync_msg`, and after the call of `ptpc_recv_general_packet`, whether
or not the loop goes on from there. -/
inductive Reached (ptpc : PtpcCtx) (now : NsTime) : List PtpPassed → PtpState → Prop where
  | between {past : List PtpPassed} {s : PtpState}
      (history : History ptpPass (ptpLoopStart ptpc now) past s) : Reached ptpc now past s
  | polled {past : List PtpPassed} {s : PtpState}
      (history : History ptpPass (ptpLoopStart ptpc now) past s) (poll : PtpPoll) :
      Reached ptpc now (past ++ [(s, poll)]) (afterSync s poll)
  | handled {past : List PtpPassed} {s : PtpState}
      (history : History ptpPass (ptpLoopStart ptpc now) past s) (poll : PtpPoll)
      (called : poll.event ≠ .failed) :
      Reached ptpc now (past ++ [(s, poll)]) (generalCall s poll).state

theorem reached_evidence {ptpc : PtpcCtx} {now : NsTime} {past : List PtpPassed} {s : PtpState}
    (reached : Reached ptpc now past s) : Evidence past s.sync ptpc.ptpServerId := by
  cases reached with
  | between history => exact history_evidence history
  | polled history poll =>
      rw [after_sync_eq]
      exact evidence_after_event (history_evidence history) poll
  | handled history poll called =>
      have polled := evidence_after_event (history_evidence history) poll
      rw [← history_keeps_server history] at polled ⊢
      exact evidence_after_general poll polled called

def results (s : PtpState) : Int64 × Int64 := (s.ptpc.meanPathDelay, s.ptpc.ptpOffset)

theorem after_sync_results (s : PtpState) (poll : PtpPoll) :
    results (afterSync s poll) = results s := by
  rw [after_sync_eq]
  rfl

theorem general_call_results (s : PtpState) (poll : PtpPoll)
    (other : generalKind s poll ≠ .delayResp) :
    results (generalCall s poll).state = results s := by
  rw [general_call_eq]
  cases kind : generalKind s poll with
  | delayResp => exact absurd kind other
  | followUp => dsimp only; rw [accept_follow_up_eq]; rfl
  | reset => rfl
  | ignored => rfl
  | failed => rfl
  | newServer => rfl

/-- A changed result means that the message was the Delay_Resp of the exchange
in progress, from the announced clock. -/
theorem results_change_source {s : PtpState} {poll : PtpPoll}
    (changed : results (generalCall s poll).state ≠ results s) :
    (afterSync s poll).sync.state = .sFollowUp ∧
      msgtype (generalMsg (s, poll)) = ptpMsgidDelayResp ∧
      seqid (generalMsg (s, poll)) = (afterSync s poll).sync.seqid ∧
      clockId (generalMsg (s, poll)) = s.ptpc.ptpServerId ∧
      ∃ bytes, poll.general = .datagram bytes := by
  have kind : generalKind s poll = .delayResp := by
    by_contra other
    exact changed (general_call_results s poll other)
  have classified := kind_is_classified s poll (.inr kind)
  rw [kind] at classified
  obtain ⟨matching, held, delayResp⟩ := classify_delay_resp (parsed s poll) classified.symm
  have received : ∃ bytes, poll.general = .datagram bytes := by
    cases general : poll.general with
    | datagram bytes => exact ⟨bytes, rfl⟩
    | again => simp [generalKind, general] at kind
    | failed => simp [generalKind, general] at kind
  rw [after_sync_eq]
  exact ⟨held, delayResp, matching.sequence, matching.clock, received⟩

/-- No general message received in the pass has the clock id of the server. -/
def ForeignGeneral (serverId : UInt64) (pass : PtpPassed) : Prop :=
  ∀ bytes, pass.2.general = .datagram bytes → clockId (generalMsg pass) ≠ serverId

theorem foreign_history_results {ptpc : PtpcCtx} {now : NsTime} {past : List PtpPassed}
    {s : PtpState} (history : History ptpPass (ptpLoopStart ptpc now) past s)
    (foreign : ∀ pass ∈ past, ForeignGeneral ptpc.ptpServerId pass) :
    results s = (ptpc.meanPathDelay, ptpc.ptpOffset) := by
  induction history with
  | start => rfl
  | @pass past s next prior poll step ih =>
      obtain ⟨-, -, rfl⟩ := pass_falls_through s next poll step
      rw [← ih (fun pass member => foreign pass (List.mem_append_left _ member))]
      by_contra changed
      obtain ⟨-, -, -, clock, bytes, received⟩ := results_change_source changed
      rw [history_keeps_server prior] at clock
      exact foreign (s, poll) (by simp) bytes received clock

/-- In `S_FOLLOW_UP` the two request timestamps belong to the exchange of the
last accepted Sync and to the announced clock; only a Delay_Resp of that
exchange changes the path delay or the offset; and general messages of other
clocks never do. -/
theorem exchange_belongs_to_announced_clock (ptpc : PtpcCtx) (now : NsTime) :
    (∀ past s, Reached ptpc now past s → s.sync.state = .sFollowUp →
      ∃ before accepting since, LastAccept past before since accepting ∧
        acceptedSeqid accepting = s.sync.seqid ∧
        ∃ pass ∈ accepting :: since, FollowUpEvidence s.sync ptpc.ptpServerId pass) ∧
    (∀ past s poll, History ptpPass (ptpLoopStart ptpc now) past s →
      results (afterSync s poll) = results s ∧
      (results (generalCall s poll).state ≠ results s →
        (afterSync s poll).sync.state = .sFollowUp ∧
        msgtype (generalMsg (s, poll)) = ptpMsgidDelayResp ∧
        seqid (generalMsg (s, poll)) = (afterSync s poll).sync.seqid ∧
        clockId (generalMsg (s, poll)) = ptpc.ptpServerId)) ∧
    (∀ past s, History ptpPass (ptpLoopStart ptpc now) past s →
      (∀ pass ∈ past, ForeignGeneral ptpc.ptpServerId pass) →
      results s = (ptpc.meanPathDelay, ptpc.ptpOffset)) := by
  refine ⟨?_, ?_, ?_⟩
  · intro past s reached followUp
    obtain ⟨before, accepting, since, last, sequence, followed⟩ :=
      reached_evidence reached (by rw [followUp]; decide)
    exact ⟨before, accepting, since, last, sequence, followed followUp⟩
  · intro past s poll history
    refine ⟨after_sync_results s poll, ?_⟩
    intro changed
    obtain ⟨held, delayResp, sequence, clock, -⟩ := results_change_source changed
    exact ⟨held, delayResp, sequence, clock.trans (history_keeps_server history)⟩
  · intro past s history foreign
    exact foreign_history_results history foreign

/-! A short exchange: the first pass accepts a Sync and its Follow_Up, the
second receives the Delay_Resp. -/

def sampleMsg (kind seconds : UInt8) : Bytes :=
  [kind, 2, 0, 44, 0, 0, 2, 0] ++ List.replicate 12 0 ++
    [0x1d, 0xc1, 0xff, 0xfe, 0x51, 0x23, 0x78, 0x00] ++ [0, 1, 0, 7, 0, 0] ++
    [0, 0, 0, 0, 0, seconds, 0, 0, 0, 0]

def sampleCtx : PtpcCtx where
  serverAddr := 0x6801000a
  ptpServerId := 0x782351feffc11d
  meanPathDelay := 0
  ptpOffset := 0
  txbuf := .zero
  rxbuf := .zero

def sampleFirst : PtpPoll where
  now := 1000
  t2 := 1000
  event := .datagram (sampleMsg ptpMsgidSync 0)
  general := .datagram (sampleMsg ptpMsgidFollowUp 5)
  send := .sent
  t3 := 1500

def sampleDelayResp (reading : NsTime) : PtpPoll where
  now := reading
  t2 := reading
  event := .again
  general := .datagram (sampleMsg ptpMsgidDelayResp 5)
  send := .sent
  t3 := reading

def sampleStart : PtpState := ptpLoopStart sampleCtx 1000

def sampleFollowed : PtpState := (generalCall sampleStart sampleFirst).state

theorem pass_of_nonnegative (s : PtpState) (poll : PtpPoll) (event : poll.event ≠ .failed)
    (ret : ¬(generalCall s poll).ret < 0) : ptpPass s poll = .next (generalCall s poll).state := by
  have polled : ¬(syncCall s poll).1 < 0 := by rwa [sync_call_negative]
  simp only [ptpPass, if_neg polled, if_neg ret]

set_option maxRecDepth 5000 in
theorem sample_history :
    History ptpPass (ptpLoopStart sampleCtx 1000) [(sampleStart, sampleFirst)] sampleFollowed :=
  .pass .start sampleFirst (pass_of_nonnegative sampleStart sampleFirst (by decide) (by decide))

set_option maxRecDepth 5000 in
theorem sample_exchange_belongs_to_clock :
    ∃ before accepting since,
      LastAccept [(sampleStart, sampleFirst)] before since accepting ∧
        acceptedSeqid accepting = sampleFollowed.sync.seqid ∧
        ∃ pass ∈ accepting :: since,
          FollowUpEvidence sampleFollowed.sync sampleCtx.ptpServerId pass :=
  (exchange_belongs_to_announced_clock sampleCtx 1000).1 _ _ (.between sample_history) (by decide)

/-! ## The reading that a measurement uses as `t2` -/

def lastAccept (past : List PtpPassed) : Option PtpPassed :=
  past.reverse.find? fun pass => acceptsSync pass.1 pass.2

theorem last_accept_found {past before since : List PtpPassed} {accepting : PtpPassed}
    (last : LastAccept past before since accepting) : lastAccept past = some accepting := by
  have none : since.reverse.find? (fun pass => acceptsSync pass.1 pass.2) = none := by
    rw [List.find?_eq_none]
    intro pass member
    rw [last.noneSince pass (List.mem_reverse.mp member)]
    decide
  rw [lastAccept, last.split, List.reverse_append, List.reverse_cons, List.append_assoc,
    List.find?_append, none]
  simp [last.accepted]

/-- A Delay_Resp is accepted in a later pass than the Sync of its exchange. -/
theorem delay_resp_after_accept {ptpc : PtpcCtx} {now : NsTime} {past : List PtpPassed}
    {s : PtpState} (history : History ptpPass (ptpLoopStart ptpc now) past s) (poll : PtpPoll)
    (measured : acceptsDelayResp s poll = true) :
    ∃ before accepting since, LastAccept past before since accepting ∧
      acceptedSeqid accepting = (afterSync s poll).sync.seqid ∧
      ∃ pass ∈ accepting :: since, FollowUpEvidence s.sync ptpc.ptpServerId pass := by
  obtain ⟨-, kind⟩ : poll.event ≠ .failed ∧ generalKind s poll = .delayResp := by
    simpa [acceptsDelayResp] using measured
  have classified := kind_is_classified s poll (.inr kind)
  rw [kind] at classified
  obtain ⟨-, held, -⟩ := classify_delay_resp (parsed s poll) classified.symm
  have heldSync : (syncAfterEvent s poll).state = .sFollowUp := held
  have rejected : acceptsSync s poll = false := by
    by_contra accepted
    simp only [Bool.not_eq_false] at accepted
    simp [syncAfterEvent, accepted] at heldSync
  have unchanged : syncAfterEvent s poll = { s.sync with now := poll.now, t2 := poll.t2 } := by
    simp [syncAfterEvent, rejected]
  rw [unchanged] at heldSync
  obtain ⟨before, accepting, since, last, sequence, followed⟩ :=
    history_evidence history (by rw [heldSync]; decide)
  rw [after_sync_eq, unchanged]
  exact ⟨before, accepting, since, last, sequence, followed heldSync⟩

/-- The `t2` that goes into the measurement is the reading of the call that
accepted the Sync whose sequence id is held. -/
def UsesAcceptedReading (past : List PtpPassed) (s : PtpState) (poll : PtpPoll) : Prop :=
  ∃ accepting, lastAccept past = some accepting ∧
    acceptedSeqid accepting = (afterSync s poll).sync.seqid ∧
    (afterSync s poll).sync.t2 = accepting.2.t2

/-- The local clock shows at this poll what it showed at the poll that
accepted the Sync. -/
def ClockHeld (past : List PtpPassed) (poll : PtpPoll) : Prop :=
  ∃ accepting, lastAccept past = some accepting ∧ poll.t2 = accepting.2.t2

theorem after_sync_t2 (s : PtpState) (poll : PtpPoll) : (afterSync s poll).sync.t2 = poll.t2 := by
  rw [after_sync_eq]
  dsimp only
  unfold syncAfterEvent
  split_ifs <;> rfl

/-- Every poll overwrites `t2`, and a Delay_Resp is never accepted in the pass
that accepted the Sync. So the measurement has the right `t2` exactly when the
clock did not advance between the two polls. -/
theorem delay_resp_uses_accepted_t2_iff {ptpc : PtpcCtx} {now : NsTime} {past : List PtpPassed}
    {s : PtpState} (history : History ptpPass (ptpLoopStart ptpc now) past s) (poll : PtpPoll)
    (measured : acceptsDelayResp s poll = true) :
    UsesAcceptedReading past s poll ↔ ClockHeld past poll := by
  obtain ⟨before, accepting, since, last, sequence, -⟩ :=
    delay_resp_after_accept history poll measured
  have found := last_accept_found last
  unfold UsesAcceptedReading ClockHeld
  rw [after_sync_t2, found]
  constructor
  · rintro ⟨other, same, -, reading⟩
    exact ⟨other, same, reading⟩
  · rintro ⟨other, same, reading⟩
    obtain rfl := Option.some.inj same
    exact ⟨accepting, rfl, sequence, reading⟩

set_option maxRecDepth 5000 in
theorem sample_clock_held :
    UsesAcceptedReading [(sampleStart, sampleFirst)] sampleFollowed (sampleDelayResp 1000) :=
  (delay_resp_uses_accepted_t2_iff sample_history (sampleDelayResp 1000) (by decide)).mpr
    ⟨(sampleStart, sampleFirst), rfl, rfl⟩

set_option maxRecDepth 5000 in
/-- With a running clock the second pass has overwritten `t2` by the time the
Delay_Resp is processed. -/
theorem sample_t2_overwritten :
    History ptpPass (ptpLoopStart sampleCtx 1000) [(sampleStart, sampleFirst)] sampleFollowed ∧
      [sampleFirst.now, sampleFirst.t2, sampleFirst.t3, (sampleDelayResp 2000).now,
        (sampleDelayResp 2000).t2].Pairwise (· ≤ ·) ∧
      acceptsDelayResp sampleFollowed (sampleDelayResp 2000) = true ∧
      ¬UsesAcceptedReading [(sampleStart, sampleFirst)] sampleFollowed (sampleDelayResp 2000) := by
  refine ⟨sample_history, by decide, by decide, ?_⟩
  rintro ⟨accepting, found, -, reading⟩
  have first : lastAccept [(sampleStart, sampleFirst)] = some (sampleStart, sampleFirst) := rfl
  obtain rfl := Option.some.inj (first.symm.trans found)
  rw [after_sync_t2] at reading
  exact absurd reading (by decide)

end AoipCore.Ptp
