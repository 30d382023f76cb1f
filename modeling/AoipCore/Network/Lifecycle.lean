import AoipCore.Network.Report

/-!
# The SAP datagrams of one session

The periodic datagrams are copies of the first announcement, since nothing
writes to the message between the two builds. The deletion is built anew, with
the time of that moment in its owner line.
-/

namespace AoipCore.Network

open ByteBuffer ControlLoop AoipCore.Host AoipCore.Ptp AoipCore.Sap

set_option autoImplicit false

/-- The line of a SAP datagram behind `v=0`. -/
def ownerLine (datagram : Bytes) : Bytes :=
  (datagram.drop (sapHdrSize + verDesc.length)).takeWhile fun byte => byte != 13

/-- `msg_id_hash`, `origin_source` and the owner line agree. -/
def SameSession (announced deleted : Bytes) : Prop :=
  field16 announced 2 = field16 deleted 2 ∧ field32 announced 4 = field32 deleted 4 ∧
    ownerLine announced = ownerLine deleted

instance (announced deleted : Bytes) : Decidable (SameSession announced deleted) :=
  inferInstanceAs (Decidable (_ ∧ _ ∧ _))

/-- One or more announcements, and then one deletion of the same session. -/
def Lifecycle (sent : List Bytes) : Prop :=
  sent.dropLast ≠ [] ∧
    ∃ deleted ∈ sent.getLast?, field8 deleted 0 = sapFlagsDeletion ∧
      ∀ announced ∈ sent.dropLast,
        field8 announced 0 = sapFlagsAnnounce ∧ SameSession announced deleted

instance (sent : List Bytes) : Decidable (Lifecycle sent) :=
  inferInstanceAs (Decidable (_ ∧ _))

/-! ## The fields of a built datagram -/

section Built

variable (session : Session) (sapFlags : UInt8) (now : Int32)
  (named : (cString session.streamName).length ≤ 31)

include named

theorem built_flags : field8 (sapMsgOf session sapFlags now).datagram 0 = sapFlags := by
  rw [built_datagram session sapFlags now named]
  rfl

theorem built_hash : field16 (sapMsgOf session sapFlags now).datagram 2 = 0x3776 := by
  rw [built_datagram session sapFlags now named]
  apply field16_of_slice
  rfl

theorem built_origin : field32 (sapMsgOf session sapFlags now).datagram 4 = session.localAddr := by
  rw [built_datagram session sapFlags now named]
  apply field32_of_slice
  rfl

theorem built_owner_line :
    ownerLine (sapMsgOf session sapFlags now).datagram = ownerText now session.localAddr := by
  have text : ∃ rest, sdpText session now =
      verDesc ++ (ownerText now session.localAddr ++ 13 :: rest) := by
    refine ⟨10 :: ([sessionName session.streamName, mediaTitle,
      connectInfo session.rtpMcastAddr] ++ closingLines session).flatten, ?_⟩
    simp only [sdpText, sdpLines, owner_id_eq, List.cons_append, List.flatten_cons,
      List.append_assoc]
    rfl
  have unbroken : (13 : UInt8) ∉ ownerText now session.localAddr := by
    intro member
    rcases owner_text_bytes now session.localAddr 13 member with fixed | digit
    · exact absurd fixed (by decide)
    · exact absurd digit.1 (by decide)
  have header : (sapHeader session.localAddr sapFlags).length = sapHdrSize := rfl
  obtain ⟨rest, text⟩ := text
  rw [ownerLine, built_datagram session sapFlags now named, text, ← header, ← List.drop_drop,
    List.drop_left, List.drop_left, take_until _ _ _ unbroken]

end Built

/-- Two builds for one context name the same session exactly when the clock
reads the same. -/
theorem same_session_iff (ctx : AoipCtx) (env : NetworkRun) (announcing deleting : PtpcCtx) :
    SameSession (announcement ctx env announcing).datagram (deletion ctx env deleting).datagram ↔
      env.deletionTime.toInt32 = env.announceTime.toInt32 := by
  have named := session_named ctx
  unfold SameSession announcement deletion
  rw [built_hash _ _ _ (named announcing), built_hash _ _ _ (named deleting),
    built_origin _ _ _ (named announcing), built_origin _ _ _ (named deleting),
    built_owner_line _ _ _ (named announcing), built_owner_line _ _ _ (named deleting)]
  constructor
  · rintro ⟨-, -, owner⟩
    exact (owner_text_injective owner).symm
  · intro same
    rw [same]
    exact ⟨rfl, rfl, rfl⟩

/-! ## Whole runs -/

theorem main_run_copies (ctx : AoipCtx) (ptpc : PtpcCtx) (msg : SapMsg) (env : NetworkRun) :
    ∃ resent, (run (mainPass ctx msg) (mainStart ctx ptpc msg env.mainStart) env.main).state.sapSent =
      List.replicate (resent + 1) msg.datagram := by
  apply run_state_invariant
    (fun s : MainState => ∃ resent, s.sapSent = List.replicate (resent + 1) msg.datagram)
  · rintro s pass ⟨resent, copies⟩
    rcases main_pass_sent ctx msg s pass with same | more
    · exact ⟨resent, same.trans copies⟩
    · refine ⟨resent + 1, ?_⟩
      rw [more, copies, ← List.replicate_succ']
  · exact ⟨0, rfl⟩

theorem lifecycle_copies_iff (resent : Nat) (announced deleted : Bytes) :
    Lifecycle (List.replicate (resent + 1) announced ++ [deleted]) ↔
      field8 deleted 0 = sapFlagsDeletion ∧ field8 announced 0 = sapFlagsAnnounce ∧
        SameSession announced deleted := by
  rw [Lifecycle, List.dropLast_concat, List.getLast?_concat]
  simp [List.mem_replicate]

/-- In a call whose first and last SAP datagrams are sent, the datagrams make up
the life of one session exactly when a PTP phase failed or the clock gave the
same second for both messages. -/
theorem sap_lifecycle_iff {ctx : AoipCtx} {env : NetworkRun} {result : NetworkResult}
    (finished : networkLoop ctx env = some result) (announced : env.announceSend = .sent)
    (deleted : env.deletionSend = .sent) :
    (result.sapSent = [] ∨ Lifecycle result.sapSent) ↔
      (PhaseFailed ctx env ∨ env.deletionTime.toInt32 = env.announceTime.toInt32) := by
  by_cases failed : PhaseFailed ctx env
  · obtain ⟨ret, -, returned⟩ := phase_failed_returns failed
    rw [finished] at returned
    obtain rfl := Option.some.inj returned
    exact ⟨fun _ => .inl failed, fun _ => .inl rfl⟩
  · obtain ⟨ptpc, session⟩ := network_loop_session finished failed
    obtain ⟨exit, s, left, rfl⟩ := run_session_sent session announced
    obtain ⟨resent, copies⟩ := main_run_copies ctx ptpc (announcement ctx env ptpc) env
    have named := session_named ctx
    have announces : field8 (announcement ctx env ptpc).datagram 0 = sapFlagsAnnounce :=
      built_flags _ _ _ (named ptpc)
    have deletes : field8 (deletion ctx env s.ptp.ptpc).datagram 0 = sapFlagsDeletion :=
      built_flags _ _ _ (named s.ptp.ptpc)
    rw [left] at copies
    have sent : s.sapSent = List.replicate (resent + 1) (announcement ctx env ptpc).datagram :=
      copies
    rw [send_deletion_eq, if_pos deleted, sent, lifecycle_copies_iff, announces, deletes,
      same_session_iff]
    simp [failed]

def sampleLife (deletionTime : Int64) : NetworkRun :=
  sampleRun syncedPasses [quietPass false 1000002000, quietPass true 1000003000] deletionTime

/-- Both messages are built in the same second. -/
theorem sample_lifecycle :
    ∃ result, networkLoop (sampleAoipCtx aoipModePlayback) (sampleLife 1311738121) = some result ∧
      (result.sapSent = [] ∨ Lifecycle result.sapSent) := by
  have finishes : (networkLoop (sampleAoipCtx aoipModePlayback)
      (sampleLife 1311738121)).isSome = true := by decide +kernel
  obtain ⟨result, finished⟩ := Option.isSome_iff_exists.mp finishes
  exact ⟨result, finished, (sap_lifecycle_iff finished rfl rfl).mpr (.inr rfl)⟩

/-- One second later the deletion names another session. -/
theorem sample_deletion_differs :
    (networkLoop (sampleAoipCtx aoipModePlayback) (sampleLife 1311738122)).map
        (fun result => (result.sapSent.map ownerLine,
          decide (result.sapSent = [] ∨ Lifecycle result.sapSent))) =
      some ([ascii "o=- 1311738121 1311738121 IN IP4 10.0.1.104",
        ascii "o=- 1311738122 1311738122 IN IP4 10.0.1.104"], false) := by
  decide +kernel

end AoipCore.Network
