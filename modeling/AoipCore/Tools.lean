import AoipCore.Pacing
import AoipCore.Rtp

/-!
# The small programs

`simple-ptpc` runs the PTP client on its own: its loop is the main loop of
`network_loop` without RTP and SAP. `simple-rtpc-recv` prints a line for every RTP
packet, but takes the fields from the wrong place: `(struct rtp_hdr *)&ctx->rxbuf` is
the pointer itself, not the buffer that it points to.
-/

namespace AoipCore.Tools

open ControlLoop ByteBuffer AoipCore.Host AoipCore.Timer AoipCore.Rtp AoipCore.Ptp AoipCore.Sap
  AoipCore.Network AoipCore.Pacing

set_option autoImplicit false

/-! ## `simple-ptpc` -/

/-- The body of `ptp_sync_loop`; the flag is `caught_signal`. -/
def ptpSyncPass : Body PtpState SyncPass Int32 := fun s pass =>
  if pass.stop then .leave 0 s
  else
    match ptpPass s pass.poll with
    | .leave _ s => .leave (-1) s
    | .next s =>
        if nsSub s.sync.now s.sync.timeoutTimer ≥ timeoutPtpTimer then .leave (-1) s else .next s

def ptpSyncLoop (ctx : PtpcCtx) (start : NsTime) (passes : List SyncPass) : Flow PtpState Int32 :=
  run ptpSyncPass (ptpLoopStart ctx start) passes

/-- What `simple-ptpc` sees of a pass of the main loop. -/
def ptpOnly (pass : MainPass) : SyncPass := ⟨false, pass.poll⟩

/-- `sap_timeout_timer` is not used by the PTP client. -/
def ptpPart (s : MainState) : PtpState := withSapTimer s.ptp 0

theorem ptp_pass_part (s : PtpState) (poll : PtpPoll) (timer : NsTime) :
    (ptpPass (withSapTimer s timer) poll).goesOn = (ptpPass s poll).goesOn := by
  have both : ∀ (s : PtpState) (timer : NsTime), (ptpPass s poll).goesOn = true →
      (ptpPass (withSapTimer s timer) poll).goesOn = true := by
    intro s timer goes
    rw [ptp_pass_with_sap_timer timer (flow_goes_on goes)]
    rfl
  have back : withSapTimer (withSapTimer s timer) s.sync.sapTimeoutTimer = s := rfl
  apply Bool.eq_iff_iff.mpr
  constructor
  · intro goes
    rw [← back]
    exact both (withSapTimer s timer) s.sync.sapTimeoutTimer goes
  · exact both s timer

theorem ptp_sync_pass_goes_on (s : PtpState) (poll : PtpPoll) :
    (ptpSyncPass s ⟨false, poll⟩).goesOn = true ↔
      ∃ next, ptpPass s poll = .next next ∧
        nsSub next.sync.now next.sync.timeoutTimer < timeoutPtpTimer := by
  unfold ptpSyncPass
  cases ptpPass s poll with
  | leave failure final =>
      constructor
      · intro goes
        cases goes
      · rintro ⟨next, step, -⟩
        cases step
  | next reached =>
      simp only [Bool.false_eq_true, if_false]
      split_ifs with expired
      · constructor
        · intro goes
          cases goes
        · rintro ⟨next, step, early⟩
          obtain rfl := Flow.next.inj step
          exact absurd early (UInt64.not_lt.mpr expired)
      · exact ⟨fun _ => ⟨reached, rfl, UInt64.not_le.mp expired⟩, fun _ => rfl⟩

section

variable {ctx : AoipCtx} {msg : SapMsg}

/-- A pass of the main loop that the RTP socket does not block is one of `ptp_sync_loop`. -/
theorem main_pass_is_ptp_pass {s next : MainState} {pass : MainPass}
    (step : mainPass ctx msg s pass = .next next) (free : ¬Blocked ctx s pass) :
    ptpSyncPass (ptpPart s) (ptpOnly pass) = .next (ptpPart next) := by
  obtain ⟨ptp, passed, rest⟩ := main_pass_next step
  obtain ⟨timer, updated⟩ := after_ptp_ptp rest
  have alone : ptpPass (ptpPart s) pass.poll = .next (withSapTimer ptp 0) :=
    ptp_pass_with_sap_timer 0 passed
  have same : ptpPart next = withSapTimer ptp 0 := by
    rw [ptpPart, updated]
    rfl
  rcases after_ptp_next rest with ⟨again, -⟩ | ⟨-, -, early⟩
  · exact absurd ((rtp_stage_again_iff ctx (received s pass ptp) pass).mp again) free
  · rw [updated] at early
    have running : ¬nsSub (withSapTimer ptp 0).sync.now (withSapTimer ptp 0).sync.timeoutTimer ≥
        timeoutPtpTimer := UInt64.not_le.mpr early
    unfold ptpSyncPass ptpOnly
    simp only [Bool.false_eq_true, if_false]
    rw [alone]
    dsimp only
    rw [if_neg running, same]

theorem main_history_is_ptp_history {ptpc : PtpcCtx} {start : NsTime}
    {past : List (MainState × MainPass)} {s : MainState}
    (history : History (mainPass ctx msg) (mainStart ctx ptpc msg start) past s)
    (free : ∀ pass ∈ past, ¬Blocked ctx pass.1 pass.2) :
    History ptpSyncPass (ptpLoopStart ptpc start) (past.map (Prod.map ptpPart ptpOnly))
      (ptpPart s) := by
  induction history with
  | start => exact .start
  | @pass past s next prior pass step ih =>
      have earlier := ih fun each member => free each (List.mem_append_left _ member)
      have last := free (s, pass) (List.mem_append_right _ (List.mem_singleton.mpr rfl))
      rw [List.map_append]
      exact .pass earlier (ptpOnly pass) (main_pass_is_ptp_pass step last)

theorem after_ptp_leaves {s final : MainState} {pass : MainPass} {exit : MainExit}
    (step : afterPtp ctx msg s pass = .leave exit final) :
    exit = .rtpFailed ∨ exit = .sapFailed ∨ exit = .timeout := by
  unfold afterPtp at step
  dsimp only at step
  cases flow : (rtpStage ctx s pass).2 with
  | again => simp [flow] at step
  | failed =>
      simp only [flow, Flow.leave.injEq] at step
      exact .inl step.1.symm
  | onward =>
      cases outcome : sapStage msg (rtpStage ctx s pass).1 pass.sapSend with
      | leave other left =>
          simp only [flow, outcome, Flow.leave.injEq] at step
          unfold sapStage at outcome
          dsimp only at outcome
          split_ifs at outcome
          obtain ⟨same, -⟩ := Flow.leave.inj outcome
          exact .inr (.inl (step.1.symm.trans same.symm))
      | next following =>
          simp only [flow, outcome] at step
          unfold timeoutStage at step
          split_ifs at step
          obtain ⟨same, -⟩ := Flow.leave.inj step
          exact .inr (.inr same.symm)

/-- If `ptp_sync_loop` goes on, only the other tasks can end a pass of the main loop. -/
theorem main_pass_leaves {s final : MainState} {pass : MainPass} {exit : MainExit}
    (running : pass.stop = false) (step : mainPass ctx msg s pass = .leave exit final)
    (goes : (ptpSyncPass (ptpPart s) (ptpOnly pass)).goesOn = true) :
    exit = .rtpFailed ∨ exit = .sapFailed := by
  obtain ⟨next, alone, early⟩ := (ptp_sync_pass_goes_on (ptpPart s) pass.poll).mp goes
  have passed : (ptpPass s.ptp pass.poll).goesOn = true := by
    rw [← ptp_pass_part s.ptp pass.poll 0]
    exact congrArg Flow.goesOn alone
  have reached := flow_goes_on passed
  have later : exit = .rtpFailed ∨ exit = .sapFailed ∨ exit = .timeout := by
    unfold mainPass at step
    rw [running, reached] at step
    simp only [Bool.false_eq_true, if_false] at step
    exact after_ptp_leaves step
  rcases later with rtp | sap | rfl
  · exact .inl rtp
  · exact .inr sap
  · obtain ⟨ptp, stepped, expired⟩ := main_pass_timeout step
    have same : withSapTimer ptp 0 = next :=
      Flow.next.inj ((ptp_pass_with_sap_timer 0 stepped).symm.trans alone)
    rw [← same] at early
    exact absurd early (UInt64.not_lt.mpr expired)

end

/-- As far as PTP is concerned, the main loop of `network_loop` is `simple-ptpc`: as long as
the RTP socket does not block a pass, both are in the same state after the same
messages, and PTP ends the one exactly when it ends the other. -/
theorem main_loop_is_simple_ptpc (ctx : AoipCtx) (ptpc : PtpcCtx) (msg : SapMsg) (start : NsTime)
    (past : List (MainState × MainPass)) (s : MainState)
    (history : History (mainPass ctx msg) (mainStart ctx ptpc msg start) past s)
    (free : ∀ pass ∈ past, ¬Blocked ctx pass.1 pass.2) :
    ptpSyncLoop ptpc start (past.map fun pass => ptpOnly pass.2) = .next (ptpPart s) ∧
      ∀ pass, pass.stop = false → ¬Blocked ctx s pass →
        (∀ final, mainPass ctx msg s pass ≠ .leave .rtpFailed final ∧
          mainPass ctx msg s pass ≠ .leave .sapFailed final) →
        (mainPass ctx msg s pass).goesOn = (ptpSyncPass (ptpPart s) (ptpOnly pass)).goesOn := by
  constructor
  · have runs := history_runs (main_history_is_ptp_history history free)
    rw [List.map_map] at runs
    exact runs
  · intro pass running unblocked others
    cases step : mainPass ctx msg s pass with
    | next next =>
        rw [main_pass_is_ptp_pass step unblocked]
        rfl
    | leave exit final =>
        cases goes : (ptpSyncPass (ptpPart s) (ptpOnly pass)).goesOn with
        | false => rfl
        | true =>
            rcases main_pass_leaves running step goes with rfl | rfl
            · exact absurd step (others final).1
            · exact absurd step (others final).2

theorem sample_main_loop_is_simple_ptpc :
    ptpSyncLoop sampleAnnounced 1000 [ptpOnly samplePass] = .next (ptpPart sampleAgain) := by
  have alike := main_loop_is_simple_ptpc (sampleAoipCtx aoipModeRecord) sampleAnnounced
    sampleAnnouncement 1000 [(sampleMainStart, samplePass)] sampleAgain
    (.pass .start samplePass sample_pass_goes_on)
  refine (alike ?_).1
  intro pass member blocked
  rw [List.mem_singleton.mp member] at blocked
  exact absurd blocked.2.2 (by decide)

/-! ## `simple-rtpc-recv` -/

def rtpPacketBufSize : Nat := 512

/-- `beyond` are the four bytes behind `rtp_ctx_t`, whose last field is `rxbuf`. -/
structure RtpcPass where
  stop : Bool
  event : RecvResult
  beyond : Bytes
  deriving DecidableEq, Repr

inductive RtpcLine where
  | notRtpv2
  | packet (ssrc timestamp : UInt32) (sequence : UInt16)
  deriving DecidableEq, Repr

structure RtpcState where
  rxbuf : Bytes
  printed : List RtpcLine
  deriving DecidableEq, Repr

def stored : RecvResult → Option Bytes
  | .datagram bytes => if (bytes.take rtpPacketBufSize).length > 0 then
      some (bytes.take rtpPacketBufSize) else none
  | _ => none

def recvRtpPacket (s : RtpcState) (event : RecvResult) : Int32 × RtpcState :=
  match stored event with
  | none => (0, s)
  | some bytes =>
      let rxbuf := writeAt s.rxbuf 0 bytes
      (1, { rxbuf := rxbuf
            printed := if rtpVersion rxbuf ≠ 0x2 then s.printed ++ [.notRtpv2] else s.printed })

/-- What `rtp_loop` takes for the header: the pointer `rxbuf`, lowest byte first, and what
lies behind it. -/
def wrongHeader (rxbuf : UInt64) (beyond : Bytes) : Bytes := littleBytes 8 rxbuf.toNat ++ beyond

def rtpLoopPass (rxbuf : UInt64) : Body RtpcState RtpcPass Unit := fun s pass =>
  if pass.stop then .leave () s
  else
    let call := recvRtpPacket s pass.event
    if call.1 ≠ 0 then
      let rtpHdr := wrongHeader rxbuf pass.beyond
      .next { call.2 with
        printed := call.2.printed ++
          [.packet (rtpSsrc rtpHdr) (rtpTimestamp rtpHdr) (rtpSequence rtpHdr)] }
    else .next call.2

def rtpLoop (rxbuf : UInt64) (s : RtpcState) (passes : List RtpcPass) : Flow RtpcState Unit :=
  run (rtpLoopPass rxbuf) s passes

def rtpcStart : RtpcState := ⟨List.replicate rtpPacketBufSize 0, []⟩

def pointerTime (rxbuf : UInt64) : UInt32 := htonl (rxbuf >>> 32).toUInt32
def pointerSequence (rxbuf : UInt64) : UInt16 := htons (rxbuf >>> 16).toUInt16

theorem wrong_header_timestamp (rxbuf : UInt64) (beyond : Bytes) :
    rtpTimestamp (wrongHeader rxbuf beyond) = pointerTime rxbuf := by
  have upper : field32 (wrongHeader rxbuf beyond) 4 = (rxbuf >>> 32).toUInt32 := by
    rw [field32, wrongHeader, slice_little_bytes 4 4 0, little_value_bytes]
    apply UInt32.toNat_inj.mp
    simp [Nat.shiftRight_eq_div_pow]
  rw [rtpTimestamp, upper]
  rfl

theorem wrong_header_sequence (rxbuf : UInt64) (beyond : Bytes) :
    rtpSequence (wrongHeader rxbuf beyond) = pointerSequence rxbuf := by
  have middle : field16 (wrongHeader rxbuf beyond) 2 = (rxbuf >>> 16).toUInt16 := by
    rw [field16, wrongHeader, slice_little_bytes 2 2 4, little_value_bytes]
    apply UInt16.toNat_inj.mp
    simp [Nat.shiftRight_eq_div_pow]
  rw [rtpSequence, middle]
  rfl

/-- All that a pass shows of a datagram: that there is one, and its version. -/
structure Glimpse where
  stop : Bool
  version : Option UInt8
  beyond : Bytes
  deriving DecidableEq, Repr

def glimpse (pass : RtpcPass) : Glimpse :=
  ⟨pass.stop, (stored pass.event).map rtpVersion, pass.beyond⟩

def glimpseLines (rxbuf : UInt64) (seen : Glimpse) : List RtpcLine :=
  match seen.version with
  | none => []
  | some version =>
      (if version ≠ 0x2 then [.notRtpv2] else []) ++
        [.packet (rtpSsrc (wrongHeader rxbuf seen.beyond)) (pointerTime rxbuf)
          (pointerSequence rxbuf)]

def printer (rxbuf : UInt64) : Body (List RtpcLine) Glimpse Unit := fun printed seen =>
  if seen.stop then .leave () printed else .next (printed ++ glimpseLines rxbuf seen)

theorem stored_nonempty {event : RecvResult} {bytes : Bytes}
    (received : stored event = some bytes) : 0 < bytes.length := by
  cases event with
  | again => cases received
  | failed => cases received
  | datagram sent =>
      rw [stored] at received
      split_ifs at received with filled
      obtain rfl := Option.some.inj received
      exact filled

/-- The version that `recv_rtp_packet` tests is that of the datagram, not of an older one. -/
theorem stored_version {rxbuf bytes : Bytes} (room : 0 < rxbuf.length) (filled : 0 < bytes.length) :
    rtpVersion (writeAt rxbuf 0 bytes) = rtpVersion bytes := by
  cases rxbuf with
  | nil => cases room
  | cons old rest =>
      cases bytes with
      | nil => cases filled
      | cons first others => rfl

theorem rtp_loop_pass_prints (rxbuf : UInt64) (s : RtpcState) (pass : RtpcPass)
    (room : s.rxbuf.length = rtpPacketBufSize) :
    printer rxbuf s.printed (glimpse pass) = (rtpLoopPass rxbuf s pass).map RtpcState.printed ∧
      (rtpLoopPass rxbuf s pass).state.rxbuf.length = rtpPacketBufSize := by
  unfold rtpLoopPass printer glimpse recvRtpPacket
  cases pass.stop with
  | true => exact ⟨rfl, room⟩
  | false =>
      simp only [Bool.false_eq_true, if_false]
      cases received : stored pass.event with
      | none =>
          refine ⟨?_, room⟩
          simp [glimpseLines, Flow.map]
      | some bytes =>
          have version := stored_version (by rw [room]; decide) (stored_nonempty received)
          have answered : (1 : Int32) ≠ 0 := by decide
          simp only [if_pos answered, version]
          constructor
          · simp only [glimpseLines, Flow.map, Option.map_some, wrong_header_timestamp,
              wrong_header_sequence]
            split_ifs <;> simp
          · simp [Flow.state, room]

theorem rtp_loop_prints (rxbuf : UInt64) (passes : List RtpcPass) :
    run (printer rxbuf) [] (passes.map glimpse) =
      (rtpLoop rxbuf rtpcStart passes).map RtpcState.printed := by
  refine run_corresponds RtpcState.printed glimpse
    (fun s _ => s.rxbuf.length = rtpPacketBufSize) ?_ rtpcStart passes List.length_replicate
  intro s pass rest room
  obtain ⟨prints, kept⟩ := rtp_loop_pass_prints rxbuf s pass room
  refine ⟨prints, ?_⟩
  intro next step
  rwa [step] at kept

/-- Every packet line shows the bytes of the pointer. -/
def ShowsPointer (rxbuf : UInt64) (printed : List RtpcLine) : Prop :=
  ∀ ssrc timestamp sequence, RtpcLine.packet ssrc timestamp sequence ∈ printed →
    timestamp = pointerTime rxbuf ∧ sequence = pointerSequence rxbuf

theorem printer_shows_pointer (rxbuf : UInt64) (seen : List Glimpse) :
    ShowsPointer rxbuf (run (printer rxbuf) [] seen).state := by
  apply run_state_invariant (ShowsPointer rxbuf)
  · intro printed glimpsed shows
    unfold printer
    split_ifs
    · exact shows
    · intro ssrc timestamp sequence member
      rcases List.mem_append.mp member with earlier | added
      · exact shows ssrc timestamp sequence earlier
      · unfold glimpseLines at added
        cases version : glimpsed.version with
        | none => simp [version] at added
        | some number =>
            simp only [version] at added
            split_ifs at added <;> simp_all
  · intro ssrc timestamp sequence member
    cases member

/-- `simple-rtpc-recv` never shows a field of a packet: two runs whose datagrams agree in
number and version print the same, if they find the same bytes behind the context, and
every line has the same time and the same sequence number, both taken from the address of
the buffer. -/
theorem printed_lines_ignore_packets (rxbuf : UInt64) (passes others : List RtpcPass)
    (alike : passes.map glimpse = others.map glimpse) :
    (rtpLoop rxbuf rtpcStart passes).state.printed =
        (rtpLoop rxbuf rtpcStart others).state.printed ∧
      ShowsPointer rxbuf (rtpLoop rxbuf rtpcStart passes).state.printed := by
  have prints : ∀ passes, (rtpLoop rxbuf rtpcStart passes).state.printed =
      (run (printer rxbuf) [] (passes.map glimpse)).state := by
    intro passes
    rw [rtp_loop_prints, flow_map_state]
  rw [prints, prints, alike]
  exact ⟨rfl, printer_shows_pointer rxbuf _⟩

def rtpcPacket (sequence : UInt8) : RtpcPass :=
  ⟨false, .datagram [0x80, 97, 0, sequence, 0, 0, sequence, 0, 1, 2, 3, 4], [0, 0, 0, 0]⟩

theorem sample_printed_lines :
    (rtpLoop 0x00007ffc12345678 rtpcStart [rtpcPacket 1]).state.printed =
      (rtpLoop 0x00007ffc12345678 rtpcStart [rtpcPacket 2]).state.printed :=
  (printed_lines_ignore_packets 0x00007ffc12345678 [rtpcPacket 1] [rtpcPacket 2]
    (by decide +kernel)).1

end AoipCore.Tools
