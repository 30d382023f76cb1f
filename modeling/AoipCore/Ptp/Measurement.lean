import AoipCore.Ptp.SyncLoop

/-!
# Counting measurements against requests

A Delay_Resp is accepted as often as it arrives in `S_FOLLOW_UP`, and the state
is entered even when `sendto` reported `EAGAIN`. `Clean` rules out exactly
these two, by what arrives: the first Follow_Up of a measured exchange finds the
Delay_Req sent, and behind it no other Delay_Resp comes before the one that is
measured. The counting is one strong induction that cuts the run at the last
accepted Sync.
-/

namespace AoipCore.Ptp

open ByteBuffer ControlLoop AoipCore.Host AoipCore.Timer

set_option autoImplicit false

def measures (pass : PtpPassed) : Bool := acceptsDelayResp pass.1 pass.2

def sendsRequest (pass : PtpPassed) : Bool :=
  acceptsFollowUp pass.1 pass.2 && decide (pass.2.send = .sent)

def startsExchange (pass : PtpPassed) : Bool := acceptsSync pass.1 pass.2

def measurements (passes : List PtpPassed) : Nat := passes.countP measures

def requestsSent (passes : List PtpPassed) : Nat := passes.countP sendsRequest

def exchangesStarted (passes : List PtpPassed) : Nat := passes.countP startsExchange

/-- The passes of a run so far; the loop may have left in the last of them. -/
def PassesMade (ptpc : PtpcCtx) (now : NsTime) (passes : List PtpPassed) : Prop :=
  ∀ earlier pass later, passes = earlier ++ pass :: later →
    History ptpPass (ptpLoopStart ptpc now) earlier pass.1

theorem made_of_history {ptpc : PtpcCtx} {now : NsTime} {past : List PtpPassed} {s : PtpState}
    (history : History ptpPass (ptpLoopStart ptpc now) past s) : PassesMade ptpc now past :=
  fun earlier pass later split => history_before history earlier later pass split

theorem made_of_last_pass {ptpc : PtpcCtx} {now : NsTime} {past : List PtpPassed} {s : PtpState}
    (history : History ptpPass (ptpLoopStart ptpc now) past s) (poll : PtpPoll) :
    PassesMade ptpc now (past ++ [(s, poll)]) := by
  intro earlier pass later split
  rcases List.eq_nil_or_concat later with rfl | ⟨front, last, rfl⟩
  · obtain ⟨rfl, same⟩ := List.append_inj' split rfl
    obtain rfl := List.singleton_inj.mp same
    exact history
  · rw [List.concat_eq_append, ← List.cons_append, ← List.append_assoc] at split
    exact history_before history earlier front pass (List.append_inj' split rfl).1

/-! ## The messages of an exchange -/

/-- The general message of a pass has this type and sequence id and comes from the
announced clock. -/
def brings (kind : UInt8) (sequence : UInt16) (pass : PtpPassed) : Bool :=
  let msg := generalMsg pass
  match pass.2.general with
  | .datagram _ => decide (ver msg = 2 ∧ ndomain msg = 0 ∧ msgtype msg = kind ∧
      seqid msg = sequence ∧ clockId msg = pass.1.ptpc.ptpServerId)
  | _ => false

/-- No second Delay_Resp and no `EAGAIN` since the last accepted Sync: the Delay_Req was
sent at the first Follow_Up with its sequence id, and no Delay_Resp with that sequence
id has come after it. -/
def CleanExchange (past : List PtpPassed) : Prop :=
  ∀ before accepting since, LastAccept past before since accepting →
    ∀ earlier followUp later, accepting :: since = earlier ++ followUp :: later →
      brings ptpMsgidFollowUp (acceptedSeqid accepting) followUp = true →
      (∀ pass ∈ earlier, brings ptpMsgidFollowUp (acceptedSeqid accepting) pass = false) →
      followUp.2.send = .sent ∧
        ∀ pass ∈ later, brings ptpMsgidDelayResp (acceptedSeqid accepting) pass = false

def Clean (passes : List PtpPassed) : Prop :=
  ∀ earlier pass later, passes = earlier ++ pass :: later → measures pass = true →
    CleanExchange earlier

/-- The state and the message decide which of the two branches is taken. -/
theorem general_kind_iff (s : PtpState) (poll : PtpPoll) :
    (generalKind s poll = .followUp ↔ (syncAfterEvent s poll).state = .sSync ∧
      brings ptpMsgidFollowUp (syncAfterEvent s poll).seqid (s, poll) = true) ∧
    (generalKind s poll = .delayResp ↔ (syncAfterEvent s poll).state = .sFollowUp ∧
      brings ptpMsgidDelayResp (syncAfterEvent s poll).seqid (s, poll) = true) := by
  unfold generalKind brings
  cases general : poll.general with
  | again => simp
  | failed => simp
  | datagram bytes =>
      have message : (parsed s poll).ptpc.rxbuf.bytes = generalMsg (s, poll) := rfl
      have sync : (parsed s poll).sync = syncAfterEvent s poll := rfl
      have server : (parsed s poll).ptpc.ptpServerId = s.ptpc.ptpServerId := rfl
      simp only [classify, message, sync, server, decide_eq_true_eq]
      split_ifs <;> grind

theorem accepted_state {s : PtpState} {poll : PtpPoll} (accepted : acceptsSync s poll = true) :
    (syncAfterEvent s poll).state = .sSync := by
  rw [syncAfterEvent, if_pos accepted]

theorem no_accept_behind {past before since rest : List PtpPassed} {accepting other : PtpPassed}
    (last : LastAccept past before since accepting)
    (accepted : acceptsSync other.1 other.2 = true) (gap : List PtpPassed)
    (same : accepting :: since = gap ++ other :: rest) : other = accepting ∧ rest = since := by
  cases gap with
  | nil => exact ⟨(List.cons.inj same).1.symm, (List.cons.inj same).2.symm⟩
  | cons head gap =>
      have inside : other ∈ since := by
        rw [(List.cons.inj same).2]
        simp
      rw [last.noneSince other inside] at accepted
      exact absurd accepted (by decide)

theorem last_accept_unique {past before since otherBefore otherSince : List PtpPassed}
    {accepting other : PtpPassed} (last : LastAccept past before since accepting)
    (again : LastAccept past otherBefore otherSince other) :
    other = accepting ∧ otherSince = since := by
  rcases List.append_eq_append_iff.mp (last.split.symm.trans again.split) with
    ⟨gap, -, same⟩ | ⟨gap, -, same⟩
  · exact no_accept_behind last again.accepted gap same
  · obtain ⟨rfl, rfl⟩ := no_accept_behind again last.accepted gap same
    exact ⟨rfl, rfl⟩

theorem last_accept_within {past before seen rest : List PtpPassed} {accepting : PtpPassed}
    (last : LastAccept past before (seen ++ rest) accepting) :
    LastAccept (before ++ accepting :: seen) before seen accepting where
  split := rfl
  accepted := last.accepted
  noneSince pass member := last.noneSince pass (List.mem_append_left _ member)

/-- Nothing but a Sync leads out of `S_INIT`. -/
theorem idle_pass {s next : PtpState} {poll : PtpPoll} (step : ptpPass s poll = .next next)
    (idle : s.sync.state = .sInit) (rejected : acceptsSync s poll = false) :
    next.sync.state = .sInit := by
  obtain ⟨-, -, rfl⟩ := pass_falls_through s next poll step
  have stays : (syncAfterEvent s poll).state = .sInit := by
    rw [syncAfterEvent, rejected]
    exact idle
  obtain ⟨followUp, delayResp⟩ := general_kind_iff s poll
  rw [general_call_eq]
  cases kind : generalKind s poll with
  | ignored => exact stays
  | failed => exact stays
  | newServer => exact stays
  | reset => rfl
  | followUp =>
      rw [(followUp.mp kind).1] at stays
      exact absurd stays (by decide)
  | delayResp =>
      rw [(delayResp.mp kind).1] at stays
      exact absurd stays (by decide)

theorem idle_until_accepted {ptpc : PtpcCtx} {now : NsTime} {past : List PtpPassed} {s : PtpState}
    (history : History ptpPass (ptpLoopStart ptpc now) past s) (front rest : List PtpPassed)
    (pass : PtpPassed) (split : past = front ++ pass :: rest) (idle : pass.1.sync.state = .sInit)
    (rejected : ∀ other ∈ pass :: rest, acceptsSync other.1 other.2 = false) :
    s.sync.state = .sInit := by
  induction history generalizing rest with
  | start => simp at split
  | @pass past s next prior poll step ih =>
      rcases List.eq_nil_or_concat rest with rfl | ⟨rest, last, rfl⟩
      · obtain ⟨-, same⟩ := List.append_inj' split rfl
        obtain rfl := List.singleton_inj.mp same
        exact idle_pass step idle (rejected (s, poll) (by simp))
      · rw [List.concat_eq_append] at split rejected
        rw [← List.cons_append, ← List.append_assoc] at split
        obtain ⟨earlier, same⟩ := List.append_inj' split rfl
        obtain rfl := List.singleton_inj.mp same
        exact idle_pass step
          (ih rest earlier fun other member => rejected other (List.mem_append_left [_] member))
          (rejected (s, poll) (by simp))

section

variable {ptpc : PtpcCtx} {now : NsTime} {past before since : List PtpPassed}
  {accepting : PtpPassed} {s : PtpState}
  (history : History ptpPass (ptpLoopStart ptpc now) past s)
  (last : LastAccept past before since accepting)

include history last

/-- What is held at a pass of an exchange that has not been given up. -/
theorem exchange_at {front rest : List PtpPassed} {pass : PtpPassed}
    (split : accepting :: since = front ++ pass :: rest)
    (started : (syncAfterEvent pass.1 pass.2).state ≠ .sInit) :
    (syncAfterEvent pass.1 pass.2).seqid = acceptedSeqid accepting ∧
      ((syncAfterEvent pass.1 pass.2).state = .sFollowUp →
        ∃ other ∈ front, acceptsFollowUp other.1 other.2 = true) := by
  cases front with
  | nil =>
      obtain ⟨rfl, rfl⟩ := List.cons.inj split
      rw [accepted_state last.accepted]
      refine ⟨?_, fun followUp => absurd followUp (by decide)⟩
      rw [syncAfterEvent, if_pos last.accepted]
      rfl
  | cons head seen =>
      obtain ⟨rfl, rfl⟩ := List.cons.inj split
      have made : History ptpPass (ptpLoopStart ptpc now) (before ++ accepting :: seen) pass.1 :=
        history_before history _ rest pass (by rw [last.split]; simp)
      have rejected := last.noneSince pass (by simp)
      have unchanged : syncAfterEvent pass.1 pass.2 =
          { pass.1.sync with now := pass.2.now, t2 := pass.2.t2 } := by
        rw [syncAfterEvent, rejected]
        rfl
      rw [unchanged] at started ⊢
      obtain ⟨_, other, _, found, sequence, followed⟩ := history_evidence made started
      obtain ⟨rfl, rfl⟩ := last_accept_unique (last_accept_within last) found
      refine ⟨sequence.symm, fun followUp => ?_⟩
      obtain ⟨other, member, evidence⟩ := followed followUp
      exact ⟨other, member, evidence.accepted⟩

/-- Up to a measurement the exchange has not been given up. -/
theorem started_before_measuring (held : s.sync.state = .sFollowUp)
    {front rest : List PtpPassed} {pass : PtpPassed}
    (split : accepting :: since = front ++ pass :: rest) :
    (syncAfterEvent pass.1 pass.2).state ≠ .sInit := by
  cases front with
  | nil =>
      obtain ⟨rfl, rfl⟩ := List.cons.inj split
      rw [accepted_state last.accepted]
      decide
  | cons head seen =>
      obtain ⟨rfl, rfl⟩ := List.cons.inj split
      have rejected : ∀ other ∈ pass :: rest, acceptsSync other.1 other.2 = false :=
        fun other member => last.noneSince other (List.mem_append_right _ member)
      rw [syncAfterEvent, rejected pass (by simp)]
      intro idle
      have ended := idle_until_accepted history (before ++ accepting :: seen) rest pass
        (by rw [last.split]; simp) idle rejected
      rw [held] at ended
      exact absurd ended (by decide)

theorem follow_up_brought {pass : PtpPassed} (member : pass ∈ accepting :: since)
    (accepted : acceptsFollowUp pass.1 pass.2 = true) :
    brings ptpMsgidFollowUp (acceptedSeqid accepting) pass = true := by
  obtain ⟨front, rest, split⟩ := List.append_of_mem member
  obtain ⟨-, kind⟩ : pass.2.event ≠ .failed ∧ generalKind pass.1 pass.2 = .followUp := by
    simpa [acceptsFollowUp] using accepted
  obtain ⟨held, brought⟩ := (general_kind_iff pass.1 pass.2).1.mp kind
  rwa [(exchange_at history last split (by rw [held]; decide)).1] at brought

theorem unaccepted_before {front rest : List PtpPassed} {first : PtpPassed}
    (split : accepting :: since = front ++ first :: rest)
    (earliest : ∀ pass ∈ front, brings ptpMsgidFollowUp (acceptedSeqid accepting) pass = false) :
    ∀ pass ∈ front, acceptsFollowUp pass.1 pass.2 ≠ true := by
  intro pass inside accepts
  have known := follow_up_brought history last (by rw [split]; simp [inside]) accepts
  rw [earliest pass inside] at known
  exact absurd known (by decide)

theorem first_follow_up_accepted (held : s.sync.state = .sFollowUp)
    {front rest : List PtpPassed} {first : PtpPassed}
    (split : accepting :: since = front ++ first :: rest)
    (brought : brings ptpMsgidFollowUp (acceptedSeqid accepting) first = true)
    (earliest : ∀ pass ∈ front, brings ptpMsgidFollowUp (acceptedSeqid accepting) pass = false) :
    acceptsFollowUp first.1 first.2 = true := by
  have started := started_before_measuring history last held split
  obtain ⟨sequence, behind⟩ := exchange_at history last split started
  have state : (syncAfterEvent first.1 first.2).state = .sSync := by
    cases reached : (syncAfterEvent first.1 first.2).state with
    | sInit => exact absurd reached started
    | sSync => rfl
    | sFollowUp =>
        obtain ⟨other, earlier, accepts⟩ := behind reached
        exact absurd accepts (unaccepted_before history last split earliest other earlier)
  rw [← sequence] at brought
  have kind := (general_kind_iff first.1 first.2).1.mpr ⟨state, brought⟩
  have polled : first.2.event ≠ .failed := by
    obtain ⟨next, step⟩ := history_fell_through history first (by rw [last.split, split]; simp)
    exact (pass_falls_through first.1 next first.2 step).1
  simp [acceptsFollowUp, polled, kind]

/-- Whatever has been measured came behind the first Follow_Up. -/
theorem measured_behind_first {front rest : List PtpPassed} {first pass : PtpPassed}
    (split : accepting :: since = front ++ first :: rest)
    (earliest : ∀ pass ∈ front, brings ptpMsgidFollowUp (acceptedSeqid accepting) pass = false)
    (inside : pass ∈ accepting :: since) (measured : measures pass = true) :
    pass ∈ rest ∧ brings ptpMsgidDelayResp (acceptedSeqid accepting) pass = true := by
  obtain ⟨-, kind⟩ : pass.2.event ≠ .failed ∧ generalKind pass.1 pass.2 = .delayResp := by
    simpa [measures, acceptsDelayResp] using measured
  obtain ⟨state, answer⟩ := (general_kind_iff pass.1 pass.2).2.mp kind
  obtain ⟨seen, later, place⟩ := List.append_of_mem inside
  obtain ⟨sequence, behind⟩ := exchange_at history last place (by rw [state]; decide)
  obtain ⟨other, earlier, accepts⟩ := behind state
  have unaccepted := unaccepted_before history last split earliest
  rw [sequence] at answer
  -- the pass has an accepted Follow_Up in front of it, so it is not in front of the first one
  rcases List.append_eq_append_iff.mp (place.symm.trans split) with
    ⟨gap, rfl, same⟩ | ⟨gap, rfl, same⟩
  · exact absurd accepts (unaccepted other (List.mem_append_left _ earlier))
  · cases gap with
    | nil =>
        rw [List.append_nil] at earlier
        exact absurd accepts (unaccepted other earlier)
    | cons head gap =>
        rw [(List.cons.inj same).2]
        exact ⟨by simp, answer⟩

/-- In a clean exchange the first Follow_Up has sent the request, and nothing has been
measured yet. -/
theorem clean_exchange_passes (held : s.sync.state = .sFollowUp) (clean : CleanExchange past)
    (followed : ∃ pass ∈ accepting :: since, acceptsFollowUp pass.1 pass.2 = true) :
    (∀ pass ∈ accepting :: since, measures pass = false) ∧
      ∃ pass ∈ accepting :: since, sendsRequest pass = true := by
  obtain ⟨accepted, member, found⟩ := followed
  obtain ⟨first, search⟩ : ∃ first, (accepting :: since).find?
      (brings ptpMsgidFollowUp (acceptedSeqid accepting)) = some first := by
    rw [← Option.isSome_iff_exists, List.find?_isSome]
    exact ⟨accepted, member, follow_up_brought history last member found⟩
  obtain ⟨brought, front, rest, split, none⟩ := List.find?_eq_some_iff_append.mp search
  have earliest : ∀ pass ∈ front,
      brings ptpMsgidFollowUp (acceptedSeqid accepting) pass = false := by
    simpa using none
  obtain ⟨sent, unanswered⟩ := clean before accepting since last front first rest split brought
    earliest
  constructor
  · intro pass inside
    by_contra measured
    obtain ⟨behind, answer⟩ := measured_behind_first history last split earliest inside
      (Bool.not_eq_false _ |>.mp measured)
    rw [unanswered pass behind] at answer
    exact absurd answer (by decide)
  · have accepts := first_follow_up_accepted history last held split brought earliest
    exact ⟨first, by rw [split]; simp, by simp [sendsRequest, accepts, sent]⟩

end

theorem measuring_state {s : PtpState} {poll : PtpPoll} (measured : measures (s, poll) = true) :
    s.sync.state = .sFollowUp := by
  obtain ⟨-, kind⟩ : poll.event ≠ .failed ∧ generalKind s poll = .delayResp := by
    simpa [measures, acceptsDelayResp] using measured
  have held := ((general_kind_iff s poll).2.mp kind).1
  unfold syncAfterEvent at held
  split_ifs at held
  exact held

/-! ## Counting -/

/-- The exchange of a measurement in a clean run: nothing else in it is measured, and its
request has been sent. -/
theorem measured_exchange {ptpc : PtpcCtx} {now : NsTime} {passes : List PtpPassed}
    (made : PassesMade ptpc now passes) (clean : Clean passes) {earlier later : List PtpPassed}
    {pass : PtpPassed} (split : passes = earlier ++ pass :: later)
    (measured : measures pass = true) :
    ∃ before accepting since, LastAccept earlier before since accepting ∧
      (∀ other ∈ accepting :: since, measures other = false) ∧
      ∃ other ∈ accepting :: since, sendsRequest other = true := by
  have history := made earlier pass later split
  obtain ⟨before, accepting, since, last, -, followUp, member, found⟩ :=
    delay_resp_after_accept history pass.2 measured
  exact ⟨before, accepting, since, last,
    clean_exchange_passes history last (measuring_state measured)
      (clean earlier pass later split measured) ⟨followUp, member, found.accepted⟩⟩

/-- Every kind of pass that occurs in each measured exchange occurs at least
as often as measurements do. -/
theorem measurements_le_tokens (token : PtpPassed → Bool) (passes : List PtpPassed)
    (backed : ∀ earlier pass later, passes = earlier ++ pass :: later → measures pass = true →
      ∃ before accepting since, LastAccept earlier before since accepting ∧
        (∀ other ∈ accepting :: since, measures other = false) ∧
        ∃ other ∈ accepting :: since, token other = true) :
    measurements passes ≤ passes.countP token := by
  induction length : passes.length using Nat.strong_induction_on generalizing passes with
  | _ count ih =>
      rcases List.eq_nil_or_concat passes with rfl | ⟨front, last, rfl⟩
      · simp [measurements]
      · rw [List.concat_eq_append] at backed length ⊢
        have shorter : front.length < count := by
          rw [← length]
          simp
        by_cases measured : measures last = true
        · obtain ⟨before, accepting, since, found, none, other, member, holds⟩ :=
            backed front last [] rfl measured
          have split : front ++ [last] = before ++ (accepting :: since ++ [last]) := by
            rw [found.split]
            simp
          have fewer : before.length < count := by
            rw [found.split] at shorter
            simp only [List.length_append, List.length_cons] at shorter
            omega
          have prior := ih before.length fewer before
            (fun earlier pass later cut => backed earlier pass (later ++ (accepting :: since ++
              [last])) (by rw [split, cut]; simp)) rfl
          have unmeasured : (accepting :: since).countP measures = 0 := by
            rw [List.countP_eq_zero]
            intro pass inside
            rw [none pass inside]
            decide
          have present : 0 < (accepting :: since).countP token :=
            List.countP_pos_iff.mpr ⟨other, member, holds⟩
          unfold measurements at prior ⊢
          rw [split]
          simp only [List.countP_append, List.countP_singleton, unmeasured, measured, if_true]
          omega
        · have prior := ih front.length shorter front
            (fun earlier pass later cut => backed earlier pass (later ++ [last])
              (by rw [cut]; simp)) rfl
          unfold measurements at prior ⊢
          rw [List.countP_append, List.countP_append, List.countP_singleton, if_neg measured]
          omega

theorem measurements_le_requests {ptpc : PtpcCtx} {now : NsTime} {passes : List PtpPassed}
    (made : PassesMade ptpc now passes) (clean : Clean passes) :
    measurements passes ≤ requestsSent passes :=
  measurements_le_tokens sendsRequest passes fun _ _ _ => measured_exchange made clean

theorem measurements_le_exchanges {ptpc : PtpcCtx} {now : NsTime} {passes : List PtpPassed}
    (made : PassesMade ptpc now passes) (clean : Clean passes) :
    measurements passes ≤ exchangesStarted passes := by
  apply measurements_le_tokens startsExchange passes
  intro earlier pass later split measured
  obtain ⟨before, accepting, since, last, unmeasured, -⟩ :=
    measured_exchange made clean split measured
  exact ⟨before, accepting, since, last, unmeasured, accepting, by simp, last.accepted⟩

theorem exchange_between_measurements {ptpc : PtpcCtx} {now : NsTime} {passes : List PtpPassed}
    (made : PassesMade ptpc now passes) (clean : Clean passes)
    (front between rest : List PtpPassed) (first second : PtpPassed)
    (split : passes = front ++ first :: (between ++ second :: rest))
    (firstMeasured : measures first = true) (secondMeasured : measures second = true) :
    ∃ pass ∈ between, startsExchange pass = true := by
  have cut : passes = (front ++ first :: between) ++ second :: rest := by
    rw [split]
    simp
  obtain ⟨before, accepting, since, last, unmeasured, -⟩ :=
    measured_exchange made clean cut secondMeasured
  rcases List.append_eq_append_iff.mp last.split with ⟨tail, -, same⟩ | ⟨tail, -, same⟩
  · cases tail with
    | nil =>
        obtain ⟨rfl, rfl⟩ := List.cons.inj same
        rw [unmeasured first (by simp)] at firstMeasured
        exact absurd firstMeasured (by decide)
    | cons head tail =>
        obtain ⟨rfl, rfl⟩ := List.cons.inj same
        exact ⟨accepting, by simp, last.accepted⟩
  · rw [unmeasured first (by rw [same]; simp)] at firstMeasured
    exact absurd firstMeasured (by decide)

/-! ## The counter that ends the synchronisation -/

theorem sync_after_event_count (s : PtpState) (poll : PtpPoll) :
    (syncAfterEvent s poll).syncedCount = s.sync.syncedCount := by
  unfold syncAfterEvent
  split_ifs <;> rfl

theorem general_call_count (s : PtpState) (poll : PtpPoll) :
    (generalCall s poll).state.sync.syncedCount =
      if generalKind s poll = .delayResp then s.sync.syncedCount + 1
      else s.sync.syncedCount := by
  have parsedCount : (parsed s poll).sync.syncedCount = s.sync.syncedCount :=
    sync_after_event_count s poll
  rw [general_call_eq]
  cases kind : generalKind s poll with
  | ignored => exact parsedCount
  | failed => exact parsedCount
  | newServer => exact parsedCount
  | reset => exact parsedCount
  | followUp =>
      have followed := (follow_up_sync_fields (parsed s poll)).2.2.1.trans parsedCount
      rw [if_neg (by decide)]
      dsimp only
      rw [accept_follow_up_eq]
      dsimp only
      split_ifs
      · exact followed
      · exact followed
  | delayResp =>
      dsimp only
      rw [accept_delay_resp_eq]
      dsimp only
      rw [(delay_resp_sync_fields _).2.2.1, parsedCount, if_pos rfl]

theorem pass_count {s next : PtpState} {poll : PtpPoll} (step : ptpPass s poll = .next next) :
    next.sync.syncedCount =
      if measures (s, poll) then s.sync.syncedCount + 1 else s.sync.syncedCount := by
  obtain ⟨called, -, rfl⟩ := pass_falls_through s next poll step
  rw [general_call_count]
  simp only [measures, acceptsDelayResp, decide_eq_true_eq]
  by_cases kind : generalKind s poll = .delayResp
  · rw [if_pos kind, if_pos ⟨called, kind⟩]
  · rw [if_neg kind, if_neg fun both => kind both.2]

def ptpPasses (past : List (SyncLoopState × SyncPass)) : List PtpPassed :=
  past.map (Prod.map SyncLoopState.ptp SyncPass.poll)

/-- `ptpc_sync_loop` stops at 10, so its counter does not wrap. -/
theorem sync_history_count {ptpc : PtpcCtx} {start : NsTime}
    {past : List (SyncLoopState × SyncPass)} {s : SyncLoopState}
    (history : History syncLoopPass (syncLoopStart ptpc start) past s) :
    s.ptp.sync.syncedCount.toNat = measurements (ptpPasses past) ∧
      measurements (ptpPasses past) ≤ 10 := by
  induction history with
  | start => exact ⟨rfl, Nat.zero_le 10⟩
  | @pass past s next prior pass step ih =>
      obtain ⟨running, ptpStep, -, -⟩ := sync_pass_falls_through step
      have short : s.ptp.sync.syncedCount.toNat ≠ 10 := fun ten =>
        running (UInt8.toNat_inj.mp ten)
      have counted := pass_count ptpStep
      have extended : measurements (ptpPasses (past ++ [(s, pass)])) =
          measurements (ptpPasses past) +
            if measures (s.ptp, pass.poll) then 1 else 0 := by
        simp [measurements, ptpPasses, List.countP_append, List.countP_singleton]
      rw [extended, counted]
      split_ifs with measured
      · rw [UInt8.toNat_add, UInt8.toNat_one]
        omega
      · omega

/-- In a clean run every measurement has its own accepted request and its own
accepted Sync; a synchronisation that ends with `synced_count == 10` and whose
passes are clean has measured ten exchanges. -/
theorem clean_measurements_are_backed (ptpc : PtpcCtx) (start : NsTime) :
    (∀ passes, PassesMade ptpc start passes → Clean passes →
      measurements passes ≤ requestsSent passes ∧
      ∀ front first between second rest,
        passes = front ++ first :: (between ++ second :: rest) →
        measures first = true → measures second = true →
        ∃ pass ∈ between, startsExchange pass = true) ∧
    (∀ past last pass final, History syncLoopPass (syncLoopStart ptpc start) past last →
      syncLoopPass last pass = .leave .synced final → Clean (ptpPasses past) →
      measurements (ptpPasses past) = 10 ∧ 10 ≤ requestsSent (ptpPasses past) ∧
        10 ≤ exchangesStarted (ptpPasses past)) := by
  refine ⟨?_, ?_⟩
  · intro passes made clean
    refine ⟨measurements_le_requests made clean, ?_⟩
    intro front first between second rest split firstMeasured secondMeasured
    exact exchange_between_measurements made clean front between rest first second split
      firstMeasured secondMeasured
  · intro past last pass final history left clean
    have ten : last.ptp.sync.syncedCount = 10 := by
      rcases sync_pass_leaves left with ⟨exit, -⟩ | ⟨-, ten, -⟩ | ⟨exit, -⟩ | ⟨exit, -⟩
      · cases exit
      · exact ten
      · cases exit
      · cases exit
    have made : PassesMade ptpc start (ptpPasses past) := made_of_history (sync_history_ptp history)
    have counted := (sync_history_count history).1
    rw [ten] at counted
    refine ⟨counted.symm, ?_, ?_⟩
    · exact counted.trans_le (measurements_le_requests made clean)
    · exact counted.trans_le (measurements_le_exchanges made clean)

def sampleMeasured : PtpState := (generalCall sampleFollowed (sampleDelayResp 2000)).state

def samplePasses : List PtpPassed :=
  [(sampleStart, sampleFirst), (sampleFollowed, sampleDelayResp 2000)]

theorem sample_passes_made : PassesMade sampleCtx 1000 samplePasses :=
  made_of_last_pass sample_history (sampleDelayResp 2000)

set_option maxRecDepth 5000 in
theorem sample_measured_history :
    History ptpPass (ptpLoopStart sampleCtx 1000) samplePasses sampleMeasured :=
  .pass sample_history (sampleDelayResp 2000)
    (pass_of_nonnegative sampleFollowed (sampleDelayResp 2000) (by decide) (by decide))

set_option maxRecDepth 5000 in
theorem sample_passes_clean : Clean samplePasses := by
  intro earlier pass later split measured before accepting since last front followUp rest found _ _
  have unmeasured : measures (sampleStart, sampleFirst) = false := by decide
  rcases earlier with - | ⟨first, earlier⟩
  · obtain ⟨rfl, -⟩ := List.cons.inj split
    rw [unmeasured] at measured
    exact absurd measured (by decide)
  · rcases earlier with - | ⟨second, earlier⟩
    · obtain ⟨rfl, -⟩ := List.cons.inj split
      have whole : [(sampleStart, sampleFirst)] = (before ++ front) ++ followUp :: rest := by
        rw [last.split, found, List.append_assoc]
      obtain ⟨-, same⟩ := List.append_eq_singleton_iff.mp whole.symm |>.resolve_right (by simp)
      obtain ⟨rfl, rfl⟩ := List.cons.inj same
      exact ⟨rfl, by simp⟩
    · have lengths := congrArg List.length split
      simp [samplePasses] at lengths

set_option maxRecDepth 5000 in
theorem sample_measurement_is_backed :
    measurements samplePasses = 1 ∧ measurements samplePasses ≤ requestsSent samplePasses :=
  ⟨by decide, ((clean_measurements_are_backed sampleCtx 1000).1 samplePasses sample_passes_made
    sample_passes_clean).1⟩

set_option maxRecDepth 5000 in
/-- A second copy of the Delay_Resp is measured again, against one request and
with no Sync in between. -/
theorem duplicate_delay_resp_is_measured :
    let passes := samplePasses ++ [(sampleMeasured, sampleDelayResp 3000)]
    PassesMade sampleCtx 1000 passes ∧ requestsSent passes = 1 ∧ measurements passes = 2 ∧
      passes = [(sampleStart, sampleFirst)] ++ (sampleFollowed, sampleDelayResp 2000) ::
        ([] ++ (sampleMeasured, sampleDelayResp 3000) :: []) ∧
      measures (sampleFollowed, sampleDelayResp 2000) = true ∧
      measures (sampleMeasured, sampleDelayResp 3000) = true :=
  ⟨made_of_last_pass sample_measured_history (sampleDelayResp 3000), by decide, by decide, rfl,
    by decide, by decide⟩

end AoipCore.Ptp
