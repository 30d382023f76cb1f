import AoipCore.Dump
import Mathlib.Data.List.Induction

/-!
# From `tonegen` to the file of `rtpdump`

One host runs `tonegen`, another `rtpdump`, and a network is in between. The
network may deliver any datagram that has been sent, at any time, in any order
and as often as it likes, or not at all. Each host is the pair of threads of its
pipeline, and a schedule picks who moves.
-/

namespace AoipCore.System

open ByteBuffer AoipCore.Host AoipCore.Timer AoipCore.Rtp AoipCore.Queue AoipCore.Playback
  AoipCore.Record AoipCore.Wav AoipCore.Rtpdump AoipCore.Dump

set_option autoImplicit false

/-- `delivered` lists the numbers of the sent datagrams that `recv` has returned
on the other side. -/
structure SystemState where
  tonegen : RecordState
  rtpdump : DumpState
  delivered : List Nat

def systemStart (tonegenQueue rtpdumpQueue : AoipQueue) (audio : AudioCtx) : SystemState where
  tonegen := recordStart tonegenQueue
  rtpdump := dumpStart rtpdumpQueue audio
  delivered := []

inductive SystemAction where
  | tonegen (action : RecordAction)
  | receive (index : Nat) (reading : NsTime)
  | dump (outside : UInt8)
  deriving DecidableEq, Repr

def arriving (s : SystemState) (index : Nat) : RecvResult :=
  match s.tonegen.sent[index]? with
  | some datagram => .datagram datagram
  | none => .again

def systemStep (accepts : Nat → Option Nat) (packetLength : UInt16) (s : SystemState) :
    SystemAction → SystemState
  | .tonegen action => { s with tonegen := recordStep s.tonegen action }
  | .receive index reading =>
      -- only an idle network thread calls `recv`
      { s with
        rtpdump := dumpAction accepts packetLength s.rtpdump (.network (arriving s index) reading)
        delivered :=
          if s.rtpdump.playback.network = .idle ∧ index < s.tonegen.sent.length then
            s.delivered ++ [index]
          else s.delivered }
  | .dump outside =>
      { s with rtpdump := dumpAction accepts packetLength s.rtpdump (.dump outside) }

def systemRun (accepts : Nat → Option Nat) (packetLength : UInt16) (s : SystemState)
    (schedule : List SystemAction) : SystemState :=
  schedule.foldl (systemStep accepts packetLength) s

/-! ## Each host runs its pipeline -/

section

variable (accepts : Nat → Option Nat) (packetLength : UInt16)

theorem tonegen_runs (schedule : List SystemAction) (s : SystemState) :
    ∃ actions, (systemRun accepts packetLength s schedule).tonegen =
      recordRun s.tonegen actions := by
  induction schedule generalizing s with
  | nil => exact ⟨[], rfl⟩
  | cons action rest ih =>
      obtain ⟨actions, runs⟩ := ih (systemStep accepts packetLength s action)
      cases action with
      | tonegen first => exact ⟨first :: actions, runs⟩
      | receive index reading => exact ⟨actions, runs⟩
      | dump outside => exact ⟨actions, runs⟩

theorem rtpdump_runs (schedule : List SystemAction) (s : SystemState) :
    ∃ actions, (systemRun accepts packetLength s schedule).rtpdump =
      dumpRun accepts packetLength s.rtpdump actions := by
  induction schedule generalizing s with
  | nil => exact ⟨[], rfl⟩
  | cons action rest ih =>
      obtain ⟨actions, runs⟩ := ih (systemStep accepts packetLength s action)
      cases action with
      | tonegen first => exact ⟨actions, runs⟩
      | receive index reading => exact ⟨.network (arriving s index) reading :: actions, runs⟩
      | dump outside => exact ⟨.dump outside :: actions, runs⟩

end

/-! ## What arrives was sent -/

def inHand : NetworkPc → List Bytes
  | .received _ datagram => [datagram]
  | _ => []

def arrived (s : SystemState) : List Bytes :=
  s.delivered.map fun index => s.tonegen.sent.getD index []

structure Arrived (s : SystemState) : Prop where
  known : ∀ index ∈ s.delivered, index < s.tonegen.sent.length
  kept : (s.rtpdump.playback.accepted ++ inHand s.rtpdump.playback.network).Sublist (arrived s)

def taken (packetLength : UInt16) : NetworkPc → RecvResult → List Bytes
  | .idle, .datagram bytes => [bytes.take packetLength.toNat]
  | _, _ => []

/-- Nothing is accepted or kept in hand but what was in hand or has just come. -/
theorem network_step_arrivals (packetLength : UInt16) (s : PlaybackState) (event : RecvResult)
    (reading : NsTime) :
    let after := networkStep packetLength s event reading
    (after.accepted ++ inHand after.network).Sublist
      (s.accepted ++ inHand s.network ++ taken packetLength s.network event) := by
  unfold networkStep
  cases pc : s.network with
  | idle =>
      have nothing : inHand .idle = [] := rfl
      cases event with
      | datagram bytes =>
          dsimp only
          split_ifs
          · rw [nothing, List.append_nil]
            exact List.Sublist.refl _
          · rw [pc]
            exact List.sublist_append_left _ _
      | _ =>
          dsimp only
          rw [pc]
          exact List.sublist_append_left _ _
  | received slot datagram =>
      dsimp only
      split_ifs
      · exact List.Sublist.refl (s.accepted ++ [datagram] ++ [])
      · change (s.accepted ++ []).Sublist (s.accepted ++ [datagram] ++ [])
        rw [List.append_nil, List.append_nil]
        exact List.sublist_append_left _ _
  | _ => exact List.sublist_append_left _ _

theorem record_step_sent (s : RecordState) (action : RecordAction) :
    ∃ more, (recordStep s action).sent = s.sent ++ more := by
  cases action with
  | producer reading byte =>
      refine ⟨[], ?_⟩
      unfold recordStep producerStep
      rw [List.append_nil]
      cases s.producer with
      | idle =>
          dsimp only
          split_ifs <;> rfl
      | filling slot written =>
          dsimp only
          split_ifs <;> rfl
      | _ => rfl
  | sender fresh outcome =>
      unfold recordStep senderStep
      cases s.sender with
      | idle =>
          refine ⟨[], ?_⟩
          dsimp only
          split_ifs <;> exact (List.append_nil _).symm
      | sequenced slot fresh =>
          cases outcome with
          | sent => exact ⟨_, rfl⟩
          | _ => exact ⟨[], (List.append_nil _).symm⟩
      | _ => exact ⟨[], (List.append_nil _).symm⟩

theorem arrived_stable {s : SystemState} {tonegen : RecordState} {more : List Bytes}
    (known : ∀ index ∈ s.delivered, index < s.tonegen.sent.length)
    (grows : tonegen.sent = s.tonegen.sent ++ more) :
    arrived { s with tonegen := tonegen } = arrived s := by
  unfold arrived
  dsimp only
  rw [grows]
  apply List.map_congr_left
  intro index member
  rw [List.getD_append _ _ _ _ (known index member)]

theorem receive_arrived {accepts : Nat → Option Nat} {packetLength : UInt16} {s : SystemState}
    (sized : ∀ datagram ∈ s.tonegen.sent, datagram.length ≤ packetLength.toNat) (index : Nat)
    (reading : NsTime) :
    arrived (systemStep accepts packetLength s (.receive index reading)) =
      arrived s ++ taken packetLength s.rtpdump.playback.network (arriving s index) := by
  unfold arrived systemStep arriving
  dsimp only
  cases found : s.tonegen.sent[index]? with
  | none =>
      have beyond : ¬index < s.tonegen.sent.length := by
        rw [List.getElem?_eq_none_iff] at found
        omega
      rw [if_neg (fun taking => beyond taking.2)]
      cases s.rtpdump.playback.network <;> exact (List.append_nil _).symm
  | some datagram =>
      obtain ⟨sent, same⟩ := List.getElem?_eq_some_iff.mp found
      have shown : s.tonegen.sent.getD index [] = datagram := by
        rw [List.getD_eq_getElem _ _ sent, same]
      have whole := List.take_of_length_le (sized datagram (List.mem_of_getElem? found))
      cases s.rtpdump.playback.network with
      | idle => rw [if_pos ⟨rfl, sent⟩, List.map_append, List.map_singleton, shown, taken, whole]
      | _ => exact (List.append_nil _).symm

theorem dump_step_frame (accepts : Nat → Option Nat) (s : DumpState) (outside : UInt8) :
    (dumpStep accepts s outside).playback.accepted = s.playback.accepted ∧
      (dumpStep accepts s outside).playback.network = s.playback.network := by
  unfold dumpStep
  cases s.dump with
  | idle =>
      dsimp only
      split_ifs <;> exact ⟨rfl, rfl⟩
  | testing slot i ret =>
      dsimp only
      split_ifs <;> exact ⟨rfl, rfl⟩
  | gathering slot i ret tmp =>
      dsimp only
      cases (frameOffsets i)[tmp.length]? <;> exact ⟨rfl, rfl⟩
  | finished ret => exact ⟨rfl, rfl⟩

theorem step_keeps_arrived {accepts : Nat → Option Nat} {packetLength : UInt16}
    {s : SystemState} (arrivals : Arrived s)
    (sized : ∀ datagram ∈ s.tonegen.sent, datagram.length ≤ packetLength.toNat)
    (action : SystemAction) : Arrived (systemStep accepts packetLength s action) := by
  cases action with
  | tonegen action =>
      obtain ⟨more, grows⟩ := record_step_sent s.tonegen action
      constructor
      · intro index member
        have before := arrivals.known index member
        have longer : (recordStep s.tonegen action).sent.length =
            s.tonegen.sent.length + more.length := by
          rw [grows, List.length_append]
        change index < (recordStep s.tonegen action).sent.length
        omega
      · have stable := arrived_stable arrivals.known grows
        have kept := arrivals.kept
        rw [← stable] at kept
        exact kept
  | receive index reading =>
      constructor
      · intro each member
        unfold systemStep at member
        dsimp only at member
        split_ifs at member with taking
        · rcases List.mem_append.mp member with earlier | newest
          · exact arrivals.known each earlier
          · rw [List.mem_singleton.mp newest]
            exact taking.2
        · exact arrivals.known each member
      · rw [receive_arrived sized index reading]
        exact (network_step_arrivals packetLength s.rtpdump.playback (arriving s index)
          reading).trans (arrivals.kept.append (List.Sublist.refl _))
  | dump outside =>
      obtain ⟨sameAccepted, sameNetwork⟩ := dump_step_frame accepts s.rtpdump outside
      refine ⟨arrivals.known, ?_⟩
      change ((dumpStep accepts s.rtpdump outside).playback.accepted ++
        inHand (dumpStep accepts s.rtpdump outside).playback.network).Sublist (arrived s)
      rw [sameAccepted, sameNetwork]
      exact arrivals.kept

/-! ## What the file shows -/

/-- Frame `index` of a payload, with the bytes of both samples reversed. -/
def swappedFrame (payload : Bytes) (index : Nat) : Bytes :=
  (slice payload (6 * index) 3).reverse ++ (slice payload (6 * index + 3) 3).reverse

/-- A payload of 48 frames shows in the file as 48 frames, of which the first 46
are its own frames from the third on. -/
structure ShownAs (payload : Bytes) (frames : List Bytes) : Prop where
  count : frames.length = 48
  shifted : ∀ index < 46, frames[index]? = some (swappedFrame payload (index + 2))

theorem dumped_shows {index : Nat} {payload packet : Bytes} {frames : List Bytes}
    (datagram : Datagram index payload packet) (dumped : DumpedAs packet frames) :
    ShownAs payload frames := by
  have size := datagram.size
  have header : rtpHdrSize = 12 := rfl
  have inside : ∀ start count, slice packet (rtpHdrSize + start) count =
      slice payload start count := by
    intro start count
    rw [← datagram.payload, slice, slice, List.drop_drop]
  constructor
  · rw [dumped.count, size]
  · intro position below
    rw [dumped.shifted position (by omega), payloadFrame, inside, Nat.add_assoc, inside,
      swappedFrame]

theorem picked_sublist {Item : Type*} (items : List Item) (other : Item) (picks : List Nat)
    (known : ∀ index ∈ picks, index < items.length) (rising : picks.Pairwise (· < ·)) :
    (picks.map fun index => items.getD index other).Sublist items := by
  have chosen : (picks.pmap Fin.mk known).Pairwise (· < ·) := by
    rw [List.pairwise_pmap]
    exact rising.imp fun below _ _ => below
  have listed := List.map_getElem_sublist chosen
  rw [List.map_pmap] at listed
  have same : picks.pmap (fun index inside => items[(Fin.mk index inside)]) known =
      picks.map fun index => items.getD index other := by
    rw [← List.pmap_eq_map known]
    apply List.pmap_congr_left
    intro index _ inside _
    exact (List.getD_eq_getElem items other inside).symm
  rw [← same]
  exact listed

theorem sent_payloads {s : RecordState} {released : Nat} (invariant : RecordInvariant s released) :
    s.sent.map (List.drop rtpHdrSize) <+: s.produced := by
  rw [List.prefix_iff_getElem?]
  intro index inside
  rw [List.length_map] at inside
  obtain ⟨payload, produced, datagram⟩ :=
    invariant.delivered index _ (List.getElem?_eq_getElem inside)
  rw [produced, List.getElem_map, datagram.payload]

theorem tonegen_reaches (accepts : Nat → Option Nat) {packetLength : UInt16}
    (configured : tonegenPacketLength = some packetLength) {tonegenQueue : AoipQueue}
    (rtpdumpQueue : AoipQueue) (slots : Bool) (data : Nat → Bool) (time : Nat → UInt32)
    (created : aoipQueueInit slots data packetLength time = some tonegenQueue)
    (audio : AudioCtx) (schedule : List SystemAction) :
    ∃ released, RecordInvariant (systemRun accepts packetLength
      (systemStart tonegenQueue rtpdumpQueue audio) schedule).tonegen released := by
  obtain ⟨actions, runs⟩ := tonegen_runs accepts packetLength schedule
    (systemStart tonegenQueue rtpdumpQueue audio)
  rw [runs]
  exact record_run_invariant
    (record_start_invariant slots data packetLength time tonegenQueue configured created) actions

/-- The system at the end of a run: both hosts are where their pipelines get, and
what has arrived was sent. -/
theorem system_reaches {accepts : Nat → Option Nat} (complete : WritesAll accepts)
    {packetLength : UInt16} (configured : tonegenPacketLength = some packetLength)
    {tonegenQueue rtpdumpQueue : AoipQueue} (slots : Bool) (data : Nat → Bool)
    (time : Nat → UInt32)
    (tonegenCreated : aoipQueueInit slots data packetLength time = some tonegenQueue)
    (otherSlots : Bool) (otherData : Nat → Bool) (otherTime : Nat → UInt32)
    (rtpdumpCreated : aoipQueueInit otherSlots otherData packetLength otherTime = some rtpdumpQueue)
    (audio : AudioCtx) (schedule : List SystemAction) :
    let s := systemRun accepts packetLength (systemStart tonegenQueue rtpdumpQueue audio) schedule
    (∃ released, RecordInvariant s.tonegen released) ∧
      Filed packetLength audio ⟨s.rtpdump.playback, s.rtpdump.before, s.rtpdump.rets⟩ ∧
      Arrived s := by
  have length : packetLength = 300 :=
    Option.some.inj (configured.symm.trans (by decide : tonegenPacketLength = some 300))
  have sender := tonegen_reaches accepts configured rtpdumpQueue slots data time tonegenCreated audio
  refine ⟨sender schedule, ?_, ?_⟩
  · obtain ⟨actions, runs⟩ := rtpdump_runs accepts packetLength schedule
      (systemStart tonegenQueue rtpdumpQueue audio)
    rw [runs]
    exact (dump_contents complete otherSlots otherData packetLength (by rw [length]; decide)
      otherTime rtpdumpQueue rtpdumpCreated audio actions).2
  · induction schedule using List.reverseRecOn with
    | nil => exact ⟨by simp [systemRun, systemStart], List.Sublist.refl _⟩
    | append_singleton earlier action ih =>
        obtain ⟨released, invariant⟩ := sender earlier
        rw [systemRun, List.foldl_append, List.foldl_cons, List.foldl_nil]
        apply step_keeps_arrived ih
        intro datagram member
        obtain ⟨index, found⟩ := List.getElem?_of_mem member
        obtain ⟨payload, -, carried⟩ := invariant.delivered index datagram found
        rw [carried.size, length]
        decide

/-- What the finished calls have written, by the numbers of the datagrams it comes from. -/
theorem shown_numbers {packetLength : UInt16} {audio : AudioCtx} {s : SystemState}
    {released : Nat} (sender : RecordInvariant s.tonegen released)
    (filed : Filed packetLength audio ⟨s.rtpdump.playback, s.rtpdump.before, s.rtpdump.rets⟩)
    (arrivals : Arrived s) :
    ∃ numbers frames, s.rtpdump.before = audio.extended frames.flatten ∧
      s.rtpdump.playback.seen.map Packet.bytes =
        numbers.map (fun number => s.tonegen.sent.getD number []) ∧
      numbers.Sublist s.delivered ∧
      (∀ number ∈ numbers, number < s.tonegen.produced.length) ∧
      List.Forall₂ (fun number group => ∃ payload, s.tonegen.produced[number]? = some payload ∧
        ShownAs payload group) numbers frames := by
  obtain ⟨⟨published, receiver⟩, -, frames, extended, dumped⟩ := filed
  have seen : (s.rtpdump.playback.seen.map Packet.bytes).Sublist (arrived s) := by
    have accepted := accepted_bytes receiver
    have front : (s.rtpdump.playback.seen.map Packet.bytes).Sublist
        s.rtpdump.playback.accepted := by
      rw [accepted, List.append_assoc]
      exact List.sublist_append_left _ _
    exact front.trans ((List.sublist_append_left _ _).trans arrivals.kept)
  obtain ⟨numbers, listed, same⟩ := List.sublist_map_iff.mp seen
  refine ⟨numbers, frames, extended, same, listed, ?_⟩
  rw [same, List.forall₂_map_left_iff] at dumped
  have known : ∀ number ∈ numbers, number < s.tonegen.sent.length := fun number member =>
    arrivals.known number (listed.subset member)
  rw [← List.forall₂_and_left]
  refine ((List.forall₂_and_left _ _).mpr ⟨known, dumped⟩).imp ?_
  rintro number group ⟨sent, shown⟩
  have found : s.tonegen.sent[number]? = some (s.tonegen.sent.getD number []) := by
    rw [List.getD_eq_getElem _ _ sent, List.getElem?_eq_getElem sent]
  obtain ⟨payload, produced, datagram⟩ := sender.delivered number _ found
  exact ⟨(List.getElem?_eq_some_iff.mp produced).1, payload, produced, dumped_shows datagram shown⟩

theorem shown_payloads {packetLength : UInt16} {audio : AudioCtx} {s : SystemState}
    {released : Nat} (sender : RecordInvariant s.tonegen released)
    (filed : Filed packetLength audio ⟨s.rtpdump.playback, s.rtpdump.before, s.rtpdump.rets⟩)
    (arrivals : Arrived s) :
    ∃ picked frames, s.rtpdump.before = audio.extended frames.flatten ∧
      List.Forall₂ ShownAs picked frames ∧
      (∀ payload ∈ picked, payload ∈ s.tonegen.produced) ∧
      (s.delivered.Pairwise (· < ·) → picked.Sublist s.tonegen.produced) := by
  obtain ⟨numbers, frames, extended, -, listed, known, shown⟩ :=
    shown_numbers sender filed arrivals
  refine ⟨numbers.map fun number => s.tonegen.produced.getD number [], frames, extended, ?_, ?_, ?_⟩
  · rw [List.forall₂_map_left_iff]
    refine shown.imp ?_
    rintro number group ⟨payload, produced, each⟩
    rw [List.getD_eq_getElem?_getD, produced]
    exact each
  · intro payload member
    obtain ⟨number, picked, rfl⟩ := List.mem_map.mp member
    rw [List.getD_eq_getElem _ _ (known number picked)]
    exact List.getElem_mem _
  · intro rising
    exact picked_sublist s.tonegen.produced [] numbers known (rising.sublist listed)

/-- Whatever the network does, the frames in the file are those of payloads that
`tonegen` produced, each shifted by two frames and with two frames of foreign
memory behind it; if the network keeps the order, the payloads come in the order
they were produced and none comes twice. -/
theorem file_shows_produced_payloads {accepts : Nat → Option Nat} (complete : WritesAll accepts)
    (packetLength : UInt16) (configured : tonegenPacketLength = some packetLength)
    (tonegenQueue rtpdumpQueue : AoipQueue) (slots : Bool) (data : Nat → Bool)
    (time : Nat → UInt32)
    (tonegenCreated : aoipQueueInit slots data packetLength time = some tonegenQueue)
    (otherSlots : Bool) (otherData : Nat → Bool) (otherTime : Nat → UInt32)
    (rtpdumpCreated : aoipQueueInit otherSlots otherData packetLength otherTime = some rtpdumpQueue)
    (audio : AudioCtx) (schedule : List SystemAction) :
    let s := systemRun accepts packetLength (systemStart tonegenQueue rtpdumpQueue audio) schedule
    ∃ picked frames, s.rtpdump.before = audio.extended frames.flatten ∧
      List.Forall₂ ShownAs picked frames ∧
      (∀ payload ∈ picked, payload ∈ s.tonegen.produced) ∧
      (s.delivered.Pairwise (· < ·) → picked.Sublist s.tonegen.produced) := by
  obtain ⟨⟨released, sender⟩, filed, arrivals⟩ := system_reaches complete configured slots data time
    tonegenCreated otherSlots otherData otherTime rtpdumpCreated audio schedule
  exact shown_payloads sender filed arrivals

def sampleTransfer : List SystemAction :=
  (samplePacket ++ sampleSend 7).map .tonegen ++ List.replicate 7 (.receive 0 0) ++
    List.replicate 387 (.dump 9)

theorem sample_file_shows_payload :
    let s := systemRun takesAll 300 (systemStart sampleQueue sampleQueue sampleAudio) sampleTransfer
    (s.delivered = [0] ∧ s.rtpdump.rets = [0] ∧ s.rtpdump.before.fd.written.length = 48) ∧
      ∃ picked frames, s.rtpdump.before = sampleAudio.extended frames.flatten ∧
        List.Forall₂ ShownAs picked frames ∧ picked.Sublist s.tonegen.produced := by
  have shows := file_shows_produced_payloads takes_all 300 (by decide) sampleQueue sampleQueue true
    (fun _ => true) (fun _ => 0) sample_queue_created true (fun _ => true) (fun _ => 0)
    sample_queue_created sampleAudio sampleTransfer
  have ran : (fun s : SystemState => s.delivered = [0] ∧ s.rtpdump.rets = [0] ∧
      s.rtpdump.before.fd.written.length = 48)
      (systemRun takesAll 300 (systemStart sampleQueue sampleQueue sampleAudio)
        sampleTransfer) := by
    decide +kernel
  -- from here on only what is known about the state counts
  generalize systemRun takesAll 300 (systemStart sampleQueue sampleQueue sampleAudio)
    sampleTransfer = s at shows ran ⊢
  obtain ⟨picked, frames, extended, shown, -, inOrder⟩ := shows
  refine ⟨ran, picked, frames, extended, shown, inOrder ?_⟩
  rw [ran.1]
  exact List.pairwise_singleton _ _

end AoipCore.System
