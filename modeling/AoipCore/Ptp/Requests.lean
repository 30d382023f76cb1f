import AoipCore.Ptp.Protocol

/-!
# The requests a client sends

A Delay_Req is built over whatever the transmit buffer held and carries
nothing of it: all 44 bytes are determined by the sequence id of the exchange.
One is sent for an accepted Sync at most, however often its Follow_Up arrives.
-/

namespace AoipCore.Ptp

open ByteBuffer ControlLoop AoipCore.Host AoipCore.Timer

set_option autoImplicit false

/-- Type 1 and version 2, the length 44 in network order, the sequence id, and
zeros. -/
def delayReqMessage (seq : UInt16) : Bytes :=
  [ptpMsgidDelayReq, 2, 0, 44] ++ List.replicate 26 0 ++ littleBytes 2 seq.toNat ++
    List.replicate 12 0

theorem built_delay_req (sync : PtpcSyncCtx) (buf : PacketBuf) :
    (buildPtpDelayReqMsg sync buf).bytes.take ptpDelayReqSize = delayReqMessage sync.seqid := by
  have room : 256 ≤ buf.bytes.length := buf.room
  have parts : buf.bytes = buf.bytes.take ptpDelayReqSize ++ buf.bytes.drop ptpDelayReqSize :=
    (List.take_append_drop _ _).symm
  have cleared : writeAt buf.bytes 0 (List.replicate ptpDelayReqSize 0) =
      List.replicate ptpDelayReqSize 0 ++ buf.bytes.drop ptpDelayReqSize := by
    conv_lhs => rw [parts]
    apply write_at_over
    rw [List.length_replicate, List.length_take, ptpDelayReqSize]
    omega
  simp only [buildPtpDelayReqMsg, PacketBuf.put16, PacketBuf.put]
  rw [cleared]
  repeat rw [write_at_front _ _ _ _ (by simp [ptpDelayReqSize])]
  rw [List.take_append_of_le_length (by simp [ptpDelayReqSize]),
    List.take_of_length_le (by simp [ptpDelayReqSize])]
  rfl

/-- The datagram that a pass hands to `sendto`; the call is not made when the
receiver of event messages failed. -/
def requestOf (pass : PtpPassed) : Option Bytes :=
  if pass.2.event = .failed then none else (generalCall pass.1 pass.2).request

def requestsMade (passes : List PtpPassed) : List Bytes := passes.filterMap requestOf

def syncsAccepted (passes : List PtpPassed) : List UInt16 :=
  (passes.filter startsExchange).map acceptedSeqid

theorem request_of_eq (s : PtpState) (poll : PtpPoll) :
    requestOf (s, poll) =
      if acceptsFollowUp s poll then some (delayReqMessage (syncAfterEvent s poll).seqid)
      else none := by
  have sequence : (followUpSync (parsed s poll)).seqid = (syncAfterEvent s poll).seqid :=
    (follow_up_sync_fields (parsed s poll)).1
  have built := built_delay_req (followUpSync (parsed s poll)) (parsed s poll).ptpc.txbuf
  unfold requestOf acceptsFollowUp
  dsimp only
  rw [general_call_eq]
  by_cases failed : poll.event = .failed
  · simp [failed]
  · rw [if_neg failed]
    cases kind : generalKind s poll with
    | followUp =>
        rw [if_pos (by simp [failed])]
        dsimp only
        rw [accept_follow_up_eq, delayReqBuf, built, sequence]
    | ignored => simp
    | failed => simp
    | reset => simp [resetCall]
    | newServer => simp
    | delayResp => simp [accept_delay_resp_eq]

/-- The requests made belong to accepted Syncs, in order and each at most
once; in `S_SYNC` the last Sync has none yet. -/
def Backed (requests : List Bytes) (syncs : List UInt16) (sync : PtpcSyncCtx) : Prop :=
  if sync.state = .sSync then
    ∃ front, syncs = front ++ [sync.seqid] ∧ requests.Sublist (front.map delayReqMessage)
  else requests.Sublist (syncs.map delayReqMessage)

theorem backed_sublist {requests : List Bytes} {syncs : List UInt16} {sync : PtpcSyncCtx}
    (backed : Backed requests syncs sync) : requests.Sublist (syncs.map delayReqMessage) := by
  unfold Backed at backed
  split_ifs at backed
  · obtain ⟨front, rfl, sublist⟩ := backed
    rw [List.map_append]
    exact sublist.trans (List.sublist_append_left _ _)
  · exact backed

theorem backed_after_event {past : List PtpPassed} {s : PtpState}
    (backed : Backed (requestsMade past) (syncsAccepted past) s.sync) (poll : PtpPoll) :
    Backed (requestsMade past) (syncsAccepted (past ++ [(s, poll)])) (syncAfterEvent s poll) := by
  have extended : syncsAccepted (past ++ [(s, poll)]) =
      syncsAccepted past ++ if acceptsSync s poll then [acceptedSeqid (s, poll)] else [] := by
    unfold syncsAccepted startsExchange
    rw [List.filter_append, List.map_append]
    cases accepted : acceptsSync s poll with
    | true => simp [accepted]
    | false => simp [accepted]
  rw [extended, syncAfterEvent]
  split_ifs with accepted
  · exact ⟨syncsAccepted past, rfl, backed_sublist backed⟩
  · rw [List.append_nil]
    exact backed

theorem follow_up_accepted {s : PtpState} {poll : PtpPoll} (accepted : acceptsFollowUp s poll = true) :
    generalKind s poll = .followUp ∧ (syncAfterEvent s poll).state = .sSync := by
  obtain ⟨-, kind⟩ : poll.event ≠ .failed ∧ generalKind s poll = .followUp := by
    simpa [acceptsFollowUp] using accepted
  have classified := kind_is_classified s poll (.inl kind)
  rw [kind] at classified
  exact ⟨kind, (classify_follow_up (parsed s poll) classified.symm).2.1⟩

theorem requests_append (past : List PtpPassed) (s : PtpState) (poll : PtpPoll) :
    requestsMade (past ++ [(s, poll)]) = requestsMade past ++
      if acceptsFollowUp s poll then [delayReqMessage (syncAfterEvent s poll).seqid] else [] := by
  have request := request_of_eq s poll
  unfold requestsMade
  rw [List.filterMap_append]
  split_ifs at request ⊢ with accepted
  · rw [List.filterMap_cons_some request]
    rfl
  · rw [List.filterMap_cons_none request]
    rfl

theorem backed_request {past : List PtpPassed} {syncs : List UInt16} {s : PtpState} {poll : PtpPoll}
    (backed : Backed (requestsMade past) syncs (syncAfterEvent s poll)) :
    (requestsMade (past ++ [(s, poll)])).Sublist (syncs.map delayReqMessage) := by
  rw [requests_append]
  split_ifs with accepted
  · rw [Backed, if_pos (follow_up_accepted accepted).2] at backed
    obtain ⟨front, rfl, sublist⟩ := backed
    rw [List.map_append]
    exact sublist.append (List.Sublist.refl _)
  · rw [List.append_nil]
    exact backed_sublist backed

/-- Outside `S_SYNC` nothing more is asked of the invariant. -/
theorem backed_elsewhere {requests : List Bytes} {syncs : List UInt16} {sync : PtpcSyncCtx}
    (sublist : requests.Sublist (syncs.map delayReqMessage)) (elsewhere : sync.state ≠ .sSync) :
    Backed requests syncs sync := by
  rw [Backed, if_neg elsewhere]
  exact sublist

theorem backed_after_pass {past : List PtpPassed} {s next : PtpState} {poll : PtpPoll}
    (backed : Backed (requestsMade past) (syncsAccepted past) s.sync)
    (step : ptpPass s poll = .next next) :
    Backed (requestsMade (past ++ [(s, poll)])) (syncsAccepted (past ++ [(s, poll)])) next.sync := by
  have polled := backed_after_event backed poll
  have requested := backed_request polled
  obtain ⟨called, general, rfl⟩ := pass_falls_through s next poll step
  rw [general_call_eq] at general ⊢
  cases kind : generalKind s poll with
  | followUp =>
      have sends : poll.send ≠ .failed := by
        intro failed
        simp [kind, accept_follow_up_eq, failed] at general
      apply backed_elsewhere requested
      dsimp only
      rw [(accept_follow_up_fields (parsed s poll) poll.send poll.t3 sends).1]
      decide
  | reset =>
      apply backed_elsewhere requested
      dsimp only [resetCall, ptpSyncStateReset]
      decide
  | delayResp =>
      have classified := kind_is_classified s poll (.inr kind)
      rw [kind] at classified
      apply backed_elsewhere requested
      dsimp only
      rw [(accept_delay_resp_fields (parsed s poll)).1,
        (classify_delay_resp (parsed s poll) classified.symm).2.1]
      decide
  | ignored =>
      rw [requests_append, if_neg (by simp [acceptsFollowUp, kind]), List.append_nil]
      exact polled
  | failed => simp [kind] at general
  | newServer => simp [kind] at general

theorem history_backed {ptpc : PtpcCtx} {now : NsTime} {past : List PtpPassed} {s : PtpState}
    (history : History ptpPass (ptpLoopStart ptpc now) past s) :
    Backed (requestsMade past) (syncsAccepted past) s.sync := by
  induction history with
  | start => exact List.Sublist.refl []
  | pass prior poll step ih => exact backed_after_pass ih step

/-- In every run, also one that ends in a failure, the requests sent are
exactly the 44-byte messages of some of the accepted Syncs, in the order the
Syncs were accepted and never two for one Sync. -/
theorem requests_answer_syncs (ptpc : PtpcCtx) (now : NsTime) (passes : List PtpPassed)
    (made : PassesMade ptpc now passes) :
    (requestsMade passes).Sublist ((syncsAccepted passes).map delayReqMessage) := by
  rcases List.eq_nil_or_concat passes with rfl | ⟨front, last, rfl⟩
  · exact List.Sublist.refl []
  · rw [List.concat_eq_append] at made ⊢
    have history := made front last [] rfl
    exact backed_request (backed_after_event (history_backed history) last.2)

set_option maxRecDepth 5000 in
theorem sample_request :
    requestsMade samplePasses = [delayReqMessage 0x0700] ∧
      (requestsMade samplePasses).Sublist ((syncsAccepted samplePasses).map delayReqMessage) :=
  ⟨by decide, requests_answer_syncs sampleCtx 1000 samplePasses sample_passes_made⟩

end AoipCore.Ptp
