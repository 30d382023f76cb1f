import AoipCore.Library.Attempt
import AoipCore.Queue
import Mathlib.Data.List.Nodup

/-!
# Creating and destroying a context (`socket.c`, `*_create_context`, `*_context_destroy`)

The system calls are made one after the other, and creation ends at the first
that fails. A descriptor is named by the number of the `socket` call that opened
it. What is recorded is which calls were made, which descriptors were opened and
which were closed. `assert` is compiled out of the release build.
-/

namespace AoipCore.Context

open Attempts AoipCore.Rtp AoipCore.Queue

set_option autoImplicit false

/-! ## System calls -/

inductive SystemCall where
  | socket
  | getFlags (fd : Nat)
  | setNonblock (fd : Nat)
  | bind (fd : Nat) (port : UInt16)
  | setTos (fd : Nat) (tos : UInt8)
  | multicastInterface (fd : Nat)
  | multicastTtl (fd : Nat) (ttl : UInt8)
  | addMembership (fd : Nat)
  | dropMembership (fd : Nat)
  deriving DecidableEq, Repr

structure Sockets where
  made : List SystemCall
  opened : List Nat
  closed : List Nat
  deriving DecidableEq, Repr

def noSockets : Sockets := ⟨[], [], []⟩

/-- A call other than `socket`; `outcome` says of each call whether it succeeds. -/
def systemCall (outcome : Nat → Bool) (call : SystemCall) : Attempt Sockets Unit := fun s =>
  (if outcome s.made.length then some () else none, { s with made := s.made ++ [call] })

def socket (outcome : Nat → Bool) : Attempt Sockets Nat := fun s =>
  if outcome s.made.length then
    (some s.made.length, ⟨s.made ++ [.socket], s.opened ++ [s.made.length], s.closed⟩)
  else (none, { s with made := s.made ++ [.socket] })

def close (fd : Nat) (s : Sockets) : Sockets :=
  { s with closed := s.closed ++ [fd] }

/-! ## `socket.c` -/

def aoipSocketUdpNonblock (outcome : Nat → Bool) : Attempt Sockets Nat := do
  let fd ← socket outcome
  Attempt.onFailure (do
    let _ ← systemCall outcome (.getFlags fd)
    let _ ← systemCall outcome (.setNonblock fd)
    return fd) (close fd)

def aoipBind (outcome : Nat → Bool) (fd : Nat) (localPort : UInt16) : Attempt Sockets Unit :=
  (systemCall outcome (.bind fd localPort)).onFailure (close fd)

def aoipMcastInterface (outcome : Nat → Bool) (fd : Nat) : Attempt Sockets Unit :=
  systemCall outcome (.multicastInterface fd)

def aoipMcastMembership (outcome : Nat → Bool) (fd : Nat) : Attempt Sockets Unit :=
  systemCall outcome (.addMembership fd)

def aoipSetTos (outcome : Nat → Bool) (fd : Nat) (tos : UInt8) : Attempt Sockets Unit :=
  systemCall outcome (.setTos fd tos)

def aoipSetMcastTtl (outcome : Nat → Bool) (fd : Nat) (ttl : UInt8) : Attempt Sockets Unit :=
  systemCall outcome (.multicastTtl fd ttl)

/-- Its result is only reported. -/
def aoipDropMcastMembership (outcome : Nat → Bool) (fd : Nat) (s : Sockets) : Sockets :=
  (systemCall outcome (.dropMembership fd) s).2

/-! ## Contexts -/

inductive PtpMode where
  | none
  | multicast
  deriving DecidableEq, Repr

inductive RtpMode where
  | none
  | recv
  | send
  deriving DecidableEq, Repr

/-- The part of `aoip_config_t` that creation reads; a buffer is allocated or
NULL. With a packet time of zero `network_init` would divide by zero. -/
structure AoipConfig where
  txbuf : Bool
  rxbuf : Bool
  ptpMode : PtpMode
  ptpDomain : UInt8
  rtpMode : RtpMode
  audioFormat : UInt8
  audioChannels : UInt8
  audioSamplingRate : UInt32
  audioPacketTime : UInt16
  timed : audioPacketTime ≠ 0

structure AoipCtx where
  eventFd : Nat
  generalFd : Nat
  sapFd : Nat
  rtpFd : Nat
  rtpMode : RtpMode
  queue : AoipQueue

def ptpEventPort : UInt16 := 319
def ptpGeneralPort : UInt16 := 320
def rtpPort : UInt16 := 5004
def rtpMcastTtl : UInt8 := 15
def tosClassClock : UInt8 := 0xb8
def tosClassMedia : UInt8 := 0x88

def ptpcCreateContext (outcome : Nat → Bool) (config : AoipConfig) : Attempt Sockets (Nat × Nat) :=
  if config.ptpMode ≠ .multicast then .fail
  else if config.ptpDomain ≠ 0 then .fail
  else if !config.txbuf then .fail
  else if !config.rxbuf then .fail
  else do
    let eventFd ← aoipSocketUdpNonblock outcome
    let _ ← aoipBind outcome eventFd ptpEventPort
    let _ ← aoipSetTos outcome eventFd tosClassClock
    let _ ← aoipMcastInterface outcome eventFd
    let _ ← aoipMcastMembership outcome eventFd
    let generalFd ← aoipSocketUdpNonblock outcome
    let _ ← aoipBind outcome generalFd ptpGeneralPort
    let _ ← aoipMcastInterface outcome generalFd
    let _ ← aoipMcastMembership outcome generalFd
    return (eventFd, generalFd)

def sapCreateContext (outcome : Nat → Bool) : Attempt Sockets Nat := do
  let sapFd ← aoipSocketUdpNonblock outcome
  let _ ← aoipMcastInterface outcome sapFd
  return sapFd

def rtpCreateContext (outcome : Nat → Bool) (config : AoipConfig) : Attempt Sockets Nat :=
  if !config.txbuf then .fail
  else if !config.rxbuf then .fail
  else do
    let rtpFd ← aoipSocketUdpNonblock outcome
    let _ ← aoipSetTos outcome rtpFd tosClassMedia
    let _ ← aoipMcastInterface outcome rtpFd
    let _ ← aoipSetMcastTtl outcome rtpFd rtpMcastTtl
    if config.rtpMode = .recv then do
      let _ ← aoipBind outcome rtpFd rtpPort
      let _ ← aoipMcastMembership outcome rtpFd
      return rtpFd
    else return rtpFd

/-- Both tests of `network_init` look at `txbuf`. -/
def networkInit (outcome : Nat → Bool) (config : AoipConfig) :
    Attempt Sockets ((Nat × Nat) × Nat × Nat) :=
  if !config.txbuf then .fail
  else if !config.txbuf then .fail
  else do
    let ptpc ← ptpcCreateContext outcome config
    let sapFd ← sapCreateContext outcome
    let rtpFd ← rtpCreateContext outcome config
    return (ptpc, sapFd, rtpFd)

theorem packet_length_defined (config : AoipConfig) :
    (rtpPacketLength config.audioFormat config.audioChannels config.audioSamplingRate
      config.audioPacketTime).isSome := by
  rw [rtpPacketLength, if_neg config.timed]
  rfl

def AoipConfig.packetLength (config : AoipConfig) : UInt16 :=
  (rtpPacketLength config.audioFormat config.audioChannels config.audioSamplingRate
    config.audioPacketTime).get (packet_length_defined config)

/-- What decides the outcome besides the system calls: the result of `ao_init`,
which allocations of the queue succeed, and the readings of the clock. -/
structure Surroundings where
  aoInit : Bool
  slots : Bool
  data : Nat → Bool
  time : Nat → UInt32

def audioInit (around : Surroundings) : Attempt Sockets Unit :=
  if around.aoInit then pure () else .fail

def queueInit (around : Surroundings) (config : AoipConfig) : Attempt Sockets AoipQueue :=
  match aoipQueueInit around.slots around.data config.packetLength around.time with
  | none => .fail
  | some queue => pure queue

/-- Giving up stands for a negative value. -/
def aoipCreateContext (outcome : Nat → Bool) (around : Surroundings) (config : AoipConfig) :
    Attempt Sockets AoipCtx := do
  let network ← networkInit outcome config
  let _ ← audioInit around
  let queue ← queueInit around config
  return ⟨network.1.1, network.1.2, network.2.1, network.2.2, config.rtpMode, queue⟩

def ptpcContextDestroy (outcome : Nat → Bool) (eventFd generalFd : Nat) (s : Sockets) : Sockets :=
  let s := close generalFd (aoipDropMcastMembership outcome generalFd s)
  close eventFd (aoipDropMcastMembership outcome eventFd s)

def sapContextDestroy (sapFd : Nat) (s : Sockets) : Sockets := close sapFd s

def rtpContextDestroy (outcome : Nat → Bool) (rtpMode : RtpMode) (rtpFd : Nat) (s : Sockets) :
    Sockets :=
  let s := if rtpMode = .recv then aoipDropMcastMembership outcome rtpFd s else s
  close rtpFd s

/-- `ao_release` and the buffers of the queue have no part in the descriptors. -/
def aoipContextDestroy (outcome : Nat → Bool) (ctx : AoipCtx) (s : Sockets) : Sockets :=
  let s := ptpcContextDestroy outcome ctx.eventFd ctx.generalFd s
  let s := sapContextDestroy ctx.sapFd s
  rtpContextDestroy outcome ctx.rtpMode ctx.rtpFd s

/-! ## What creation has done when it ends -/

/-- So many calls made, all of them successful, and nothing closed. -/
structure Progress (outcome : Nat → Bool) (fds : List Nat) (count : Nat) (s : Sockets) : Prop where
  opened : s.opened = fds
  closed : s.closed = []
  made : s.made.length = count
  good : ∀ call < count, outcome call = true
  distinct : fds.Nodup
  below : ∀ fd ∈ fds, fd < count

/-- A call from `first` on, and before `last`, was the first to fail. -/
def FailsWithin (outcome : Nat → Bool) (first last : Nat) : Prop :=
  ∃ call, first ≤ call ∧ call < last ∧ outcome call = false ∧
    ∀ earlier < call, outcome earlier = true

/-- A call has failed, and nothing is closed yet. -/
structure Halted (outcome : Nat → Bool) (first last : Nat) (fds : List Nat) (s : Sockets) :
    Prop where
  opened : s.opened = fds
  closed : s.closed = []
  distinct : fds.Nodup
  failed : FailsWithin outcome first last

/-- A call has failed, and all but `fds` is closed again. -/
structure Stopped (outcome : Nat → Bool) (first last : Nat) (fds : List Nat) (s : Sockets) :
    Prop where
  tidied : ∃ own, s.opened = fds ++ own ∧ s.closed = own ∧ (fds ++ own).Nodup
  failed : FailsWithin outcome first last

/-- Nothing is left open if the failure is among the first four calls, and
something is left open otherwise. -/
def GaveUp (outcome : Nat → Bool) (bound : Nat) (s : Sockets) : Prop :=
  ∃ first last fds, Stopped outcome first last fds s ∧ last ≤ bound ∧
    (last ≤ 4 ∧ fds = [] ∨ 4 ≤ first ∧ fds ≠ [])

section

variable {outcome : Nat → Bool} {fds : List Nat} {count first last : Nat} {s : Sockets}

theorem fails_here (progress : Progress outcome fds count s) (result : outcome count = false) :
    FailsWithin outcome count (count + 1) :=
  ⟨count, le_rfl, by omega, result, progress.good⟩

theorem good_extends (progress : Progress outcome fds count s) (result : outcome count = true) :
    ∀ call < count + 1, outcome call = true := by
  intro call early
  rcases Nat.lt_succ_iff_lt_or_eq.mp early with before | rfl
  · exact progress.good call before
  · exact result

theorem halted_wider {narrowFirst narrowLast : Nat}
    (halted : Halted outcome narrowFirst narrowLast fds s) (lower : first ≤ narrowFirst)
    (upper : narrowLast ≤ last) : Halted outcome first last fds s := by
  obtain ⟨call, early, late, result, good⟩ := halted.failed
  exact ⟨halted.opened, halted.closed, halted.distinct, call, by omega, by omega, result, good⟩

theorem halted_stopped (halted : Halted outcome first last fds s) :
    Stopped outcome first last fds s := by
  refine ⟨⟨[], ?_, halted.closed, ?_⟩, halted.failed⟩
  · rw [List.append_nil]
    exact halted.opened
  · rw [List.append_nil]
    exact halted.distinct

theorem halted_closed {fd : Nat} (halted : Halted outcome first last (fds ++ [fd]) s) :
    Stopped outcome first last fds (close fd s) := by
  refine ⟨⟨[fd], halted.opened, ?_, halted.distinct⟩, halted.failed⟩
  rw [close, halted.closed]
  rfl

theorem system_call_ensures (call : SystemCall) :
    Ensures (Progress outcome fds count) (systemCall outcome call)
      (fun _ => Progress outcome fds (count + 1)) (Halted outcome count (count + 1) fds) := by
  intro s progress
  unfold systemCall
  rw [progress.made]
  cases result : outcome count with
  | false =>
      exact ⟨progress.opened, progress.closed, progress.distinct, fails_here progress result⟩
  | true =>
      refine ⟨progress.opened, progress.closed, ?_, good_extends progress result,
        progress.distinct, ?_⟩
      · rw [List.length_append, progress.made]
        rfl
      · intro fd member
        exact Nat.lt_succ_of_lt (progress.below fd member)

theorem socket_ensures :
    Ensures (Progress outcome fds count) (socket outcome)
      (fun fd s => fd = count ∧ Progress outcome (fds ++ [count]) (count + 1) s)
      (Halted outcome count (count + 1) fds) := by
  intro s progress
  unfold socket
  rw [progress.made]
  cases result : outcome count with
  | false =>
      exact ⟨progress.opened, progress.closed, progress.distinct, fails_here progress result⟩
  | true =>
      refine ⟨rfl, ?_, progress.closed, ?_, good_extends progress result, ?_, ?_⟩
      · rw [progress.opened]
      · rw [List.length_append, progress.made]
        rfl
      · apply progress.distinct.append (List.nodup_singleton count)
        intro fd member same
        have below := progress.below fd member
        rw [List.mem_singleton.mp same] at below
        exact absurd below (Nat.lt_irrefl count)
      · rw [List.forall_mem_append, List.forall_mem_singleton]
        exact ⟨fun fd member => Nat.lt_succ_of_lt (progress.below fd member), Nat.lt_succ_self count⟩

theorem nonblock_ensures :
    Ensures (Progress outcome fds count) (aoipSocketUdpNonblock outcome)
      (fun fd s => fd = count ∧ Progress outcome (fds ++ [count]) (count + 3) s)
      (Stopped outcome count (count + 3) fds) := by
  apply ensures_bind (ensures_weaken socket_ensures fun s halted =>
    halted_stopped (halted_wider halted le_rfl (by omega)))
  intro fd
  apply ensures_fact
  rintro rfl
  -- the two `fcntl` calls, at `count + 1` and `count + 2`
  have flags : Ensures (Progress outcome (fds ++ [fd]) (fd + 1))
      (do
        let _ ← systemCall outcome (.getFlags fd)
        let _ ← systemCall outcome (.setNonblock fd)
        return fd)
      (fun value s => value = fd ∧ Progress outcome (fds ++ [fd]) (fd + 3) s)
      (Halted outcome fd (fd + 3) (fds ++ [fd])) := by
    apply ensures_bind (ensures_weaken (system_call_ensures _) fun s halted =>
      halted_wider halted (by omega) (by omega))
    intro _
    apply ensures_bind (ensures_weaken (system_call_ensures _) fun s halted =>
      halted_wider halted (by omega) (by omega))
    intro _
    exact ensures_pure fd fun s progress => ⟨rfl, progress⟩
  exact ensures_on_failure flags fun s halted => halted_closed halted

theorem bind_ensures {fd : Nat} (localPort : UInt16) :
    Ensures (Progress outcome (fds ++ [fd]) count) (aoipBind outcome fd localPort)
      (fun _ => Progress outcome (fds ++ [fd]) (count + 1))
      (Stopped outcome count (count + 1) fds) :=
  ensures_on_failure (system_call_ensures _) fun _ halted => halted_closed halted

end

/-! ## The whole creation -/

/-- The number of system calls that a creation without failures makes. -/
def callCount (rtpMode : RtpMode) : Nat := if rtpMode = .recv then 25 else 23

theorem call_count_room (rtpMode : RtpMode) : 23 ≤ callCount rtpMode := by
  cases rtpMode with
  | none => decide
  | recv => decide
  | send => decide

def AoipConfig.Accepted (config : AoipConfig) : Prop :=
  config.txbuf = true ∧ config.rxbuf = true ∧ config.ptpMode = .multicast ∧ config.ptpDomain = 0

section

variable {outcome : Nat → Bool} {count bound : Nat}

theorem option_step {fds : List Nat} (call : SystemCall) (late : 4 ≤ count) (held : fds ≠ [])
    (inside : count + 1 ≤ bound) :
    Ensures (Progress outcome fds count) (systemCall outcome call)
      (fun _ => Progress outcome fds (count + 1)) (GaveUp outcome bound) :=
  ensures_weaken (system_call_ensures call) fun _ halted =>
    ⟨count, count + 1, fds, halted_stopped halted, inside, .inr ⟨late, held⟩⟩

theorem socket_step {fds : List Nat} (inside : count + 3 ≤ bound)
    (place : count + 3 ≤ 4 ∧ fds = [] ∨ 4 ≤ count ∧ fds ≠ []) :
    Ensures (Progress outcome fds count) (aoipSocketUdpNonblock outcome)
      (fun fd s => fd = count ∧ Progress outcome (fds ++ [count]) (count + 3) s)
      (GaveUp outcome bound) :=
  ensures_weaken nonblock_ensures fun _ stopped =>
    ⟨count, count + 3, fds, stopped, inside, place⟩

theorem bind_step (fds : List Nat) {fd : Nat} (localPort : UInt16)
    (inside : count + 1 ≤ bound) (place : count + 1 ≤ 4 ∧ fds = [] ∨ 4 ≤ count ∧ fds ≠ []) :
    Ensures (Progress outcome (fds ++ [fd]) count) (aoipBind outcome fd localPort)
      (fun _ => Progress outcome (fds ++ [fd]) (count + 1)) (GaveUp outcome bound) :=
  ensures_weaken (bind_ensures localPort) fun _ stopped =>
    ⟨count, count + 1, fds, stopped, inside, place⟩

theorem ptpc_create_ensures {config : AoipConfig} (accepted : config.Accepted)
    (room : 13 ≤ bound) :
    Ensures (Progress outcome [] 0) (ptpcCreateContext outcome config)
      (fun ptpc s => ptpc = (0, 7) ∧ Progress outcome [0, 7] 13 s) (GaveUp outcome bound) := by
  obtain ⟨txbuf, rxbuf, mode, domain⟩ := accepted
  rw [ptpcCreateContext, mode, domain, txbuf, rxbuf, if_neg (by decide), if_neg (by decide),
    if_neg (by decide), if_neg (by decide)]
  apply ensures_bind (socket_step (by omega) (by decide))
  intro eventFd
  apply ensures_fact
  rintro rfl
  apply ensures_bind (bind_step [] ptpEventPort (by omega) (by decide))
  intro _
  apply ensures_bind (option_step _ (by decide) (by decide) (by omega))
  intro _
  apply ensures_bind (option_step _ (by decide) (by decide) (by omega))
  intro _
  apply ensures_bind (option_step _ (by decide) (by decide) (by omega))
  intro _
  apply ensures_bind (socket_step (by omega) (by decide))
  intro generalFd
  apply ensures_fact
  rintro rfl
  apply ensures_bind (bind_step [0] ptpGeneralPort (by omega) (by decide))
  intro _
  apply ensures_bind (option_step _ (by decide) (by decide) (by omega))
  intro _
  apply ensures_bind (option_step _ (by decide) (by decide) (by omega))
  intro _
  exact ensures_pure _ fun s progress => ⟨rfl, progress⟩

theorem sap_create_ensures (room : 17 ≤ bound) :
    Ensures (Progress outcome [0, 7] 13) (sapCreateContext outcome)
      (fun sapFd s => sapFd = 13 ∧ Progress outcome [0, 7, 13] 17 s) (GaveUp outcome bound) := by
  apply ensures_bind (socket_step (by omega) (by decide))
  intro sapFd
  apply ensures_fact
  rintro rfl
  apply ensures_bind (option_step _ (by decide) (by decide) (by omega))
  intro _
  exact ensures_pure _ fun s progress => ⟨rfl, progress⟩

theorem rtp_create_ensures {config : AoipConfig} (accepted : config.Accepted) :
    Ensures (Progress outcome [0, 7, 13] 17) (rtpCreateContext outcome config)
      (fun rtpFd s => rtpFd = 17 ∧ Progress outcome [0, 7, 13, 17] (callCount config.rtpMode) s)
      (GaveUp outcome (callCount config.rtpMode)) := by
  obtain ⟨txbuf, rxbuf, -, -⟩ := accepted
  have room := call_count_room config.rtpMode
  rw [rtpCreateContext, txbuf, rxbuf, if_neg (by decide), if_neg (by decide)]
  apply ensures_bind (socket_step (by omega) (by decide))
  intro rtpFd
  apply ensures_fact
  rintro rfl
  apply ensures_bind (option_step _ (by decide) (by decide) (by omega))
  intro _
  apply ensures_bind (option_step _ (by decide) (by decide) (by omega))
  intro _
  apply ensures_bind (option_step _ (by decide) (by decide) (by omega))
  intro _
  by_cases receiving : config.rtpMode = .recv
  · have calls : callCount config.rtpMode = 25 := if_pos receiving
    rw [if_pos receiving, calls]
    apply ensures_bind (bind_step [0, 7, 13] rtpPort (by omega) (by decide))
    intro _
    apply ensures_bind (option_step _ (by decide) (by decide) (by omega))
    intro _
    exact ensures_pure _ fun s progress => ⟨rfl, progress⟩
  · have calls : callCount config.rtpMode = 23 := if_neg receiving
    rw [if_neg receiving, calls]
    exact ensures_pure _ fun s progress => ⟨rfl, progress⟩

theorem network_init_ensures {config : AoipConfig} (accepted : config.Accepted) :
    Ensures (Progress outcome [] 0) (networkInit outcome config)
      (fun network s => network = ((0, 7), 13, 17) ∧
        Progress outcome [0, 7, 13, 17] (callCount config.rtpMode) s)
      (GaveUp outcome (callCount config.rtpMode)) := by
  have room := call_count_room config.rtpMode
  rw [networkInit, accepted.1, if_neg (by decide), if_neg (by decide)]
  apply ensures_bind (ptpc_create_ensures accepted (by omega))
  intro ptpc
  apply ensures_fact
  rintro rfl
  apply ensures_bind (sap_create_ensures (by omega))
  intro sapFd
  apply ensures_fact
  rintro rfl
  apply ensures_bind (rtp_create_ensures accepted)
  intro rtpFd
  apply ensures_fact
  rintro rfl
  exact ensures_pure _ fun s progress => ⟨rfl, progress⟩

end

theorem network_init_rejects (outcome : Nat → Bool) {config : AoipConfig}
    (rejected : ¬config.Accepted) (s : Sockets) : networkInit outcome config s = (none, s) := by
  cases txbuf : config.txbuf with
  | false =>
      rw [networkInit, txbuf]
      rfl
  | true =>
      have ptpc : ptpcCreateContext outcome config = .fail := by
        unfold ptpcCreateContext
        split_ifs with mode domain missing absent
        · rfl
        · rfl
        · rfl
        · rfl
        · exfalso
          simp only [ne_eq, not_not, Bool.not_eq_true', Bool.not_eq_false] at mode domain absent
          exact rejected ⟨txbuf, absent, mode, domain⟩
      rw [networkInit, txbuf, if_neg (by decide), if_neg (by decide), ptpc]
      rfl

theorem create_context_eq (outcome : Nat → Bool) (around : Surroundings) (config : AoipConfig)
    (s : Sockets) :
    aoipCreateContext outcome around config s =
      match networkInit outcome config s with
      | (none, after) => (none, after)
      | (some network, after) =>
          if around.aoInit then
            match aoipQueueInit around.slots around.data config.packetLength around.time with
            | none => (none, after)
            | some queue =>
                (some ⟨network.1.1, network.1.2, network.2.1, network.2.2, config.rtpMode, queue⟩,
                  after)
          else (none, after) := by
  rw [aoipCreateContext, bind_apply]
  cases networkInit outcome config s with
  | mk network after =>
      cases network with
      | none => rfl
      | some network =>
          dsimp only
          rw [bind_apply, audioInit]
          cases around.aoInit with
          | false => rfl
          | true =>
              rw [if_pos rfl, if_pos rfl, pure_apply]
              dsimp only
              rw [bind_apply, queueInit]
              cases aoipQueueInit around.slots around.data config.packetLength around.time with
              | none => rfl
              | some queue => rfl

theorem queue_init_isSome_iff (slots : Bool) (data : Nat → Bool) (length : UInt16)
    (time : Nat → UInt32) :
    (aoipQueueInit slots data length time).isSome ↔
      slots = true ∧ ∀ index < dataQueueSlotNum, data index = true := by
  rw [aoipQueueInit]
  split_ifs with allocated
  · rw [Bool.and_eq_true, List.all_eq_true] at allocated
    refine iff_of_true rfl ⟨allocated.1, fun index inside => ?_⟩
    exact allocated.2 index (List.mem_range.mpr inside)
  · refine iff_of_false (by simp) fun succeeded => allocated ?_
    rw [Bool.and_eq_true, List.all_eq_true]
    exact ⟨succeeded.1, fun index inside => succeeded.2 index (List.mem_range.mp inside)⟩

theorem destroy_closes (outcome : Nat → Bool) (ctx : AoipCtx) (s : Sockets) :
    (aoipContextDestroy outcome ctx s).closed =
      s.closed ++ [ctx.generalFd, ctx.eventFd, ctx.sapFd, ctx.rtpFd] := by
  unfold aoipContextDestroy rtpContextDestroy
  dsimp only
  split_ifs with receiving
  · simp [close, sapContextDestroy, ptpcContextDestroy, aoipDropMcastMembership, systemCall]
  · simp [close, sapContextDestroy, ptpcContextDestroy, aoipDropMcastMembership, systemCall]

/-! ## Descriptors that are not closed -/

/-- If creation fails, every descriptor it opened has been closed once; if it
succeeds, destruction closes the four descriptors once each, and no other. -/
def Accounted : Option AoipCtx × Sockets → Prop
  | (none, s) => ∀ fd ∈ s.opened, s.closed.count fd = 1
  | (some ctx, s) =>
      s.opened = [ctx.eventFd, ctx.generalFd, ctx.sapFd, ctx.rtpFd] ∧
      ∀ later : Nat → Bool, ∃ order, (aoipContextDestroy later ctx s).closed = s.closed ++ order ∧
        order.Perm [ctx.eventFd, ctx.generalFd, ctx.sapFd, ctx.rtpFd] ∧ order.Nodup

def SocketsAccounted (outcome : Nat → Bool) (around : Surroundings) (config : AoipConfig) : Prop :=
  Accounted (aoipCreateContext outcome around config noSockets)

def AllSucceed (outcome : Nat → Bool) (around : Surroundings) (config : AoipConfig) : Prop :=
  (∀ call < callCount config.rtpMode, outcome call = true) ∧ around.aoInit = true ∧
    around.slots = true ∧ ∀ index < dataQueueSlotNum, around.data index = true

theorem unaccounted_of_left_open {s : Sockets} (fd : Nat) (opened : fd ∈ s.opened)
    (kept : fd ∉ s.closed) : ¬Accounted (none, s) := by
  intro accounted
  have once := accounted fd opened
  rw [List.count_eq_zero_of_not_mem kept] at once
  exact absurd once (by decide)

/-- A failed creation closes what it has opened exactly if the failure is among
the first four calls. -/
theorem gave_up_accounted_iff {outcome : Nat → Bool} (around : Surroundings) {config : AoipConfig}
    {s : Sockets} (gaveUp : GaveUp outcome (callCount config.rtpMode) s) :
    Accounted (none, s) ↔
      (∃ call < 4, outcome call = false) ∨ AllSucceed outcome around config := by
  obtain ⟨first, last, fds, ⟨⟨own, opened, closed, distinct⟩, call, lower, upper, failed, good⟩,
    inside, place⟩ := gaveUp
  rcases place with ⟨early, rfl⟩ | ⟨late, held⟩
  · refine iff_of_true ?_ (.inl ⟨call, by omega, failed⟩)
    intro fd member
    rw [List.nil_append] at opened distinct
    rw [opened] at member
    rw [closed]
    exact List.count_eq_one_of_mem distinct member
  · apply iff_of_false
    · obtain ⟨fd, member⟩ := List.exists_mem_of_ne_nil fds held
      apply unaccounted_of_left_open fd
      · rw [opened]
        exact List.mem_append_left own member
      · rw [closed]
        exact (List.disjoint_of_nodup_append distinct) member
    · rintro (⟨other, before, otherFailed⟩ | succeeded)
      · rw [good other (by omega)] at otherFailed
        exact absurd otherFailed (by decide)
      · rw [succeeded.1 call (by omega)] at failed
        exact absurd failed (by decide)

/-- Behind the system calls nothing is closed, whatever fails. -/
theorem created_accounted_iff {outcome : Nat → Bool} (around : Surroundings) {config : AoipConfig}
    {s : Sockets}
    (progress : Progress outcome [0, 7, 13, 17] (callCount config.rtpMode) s) :
    Accounted
        (if around.aoInit then
          match aoipQueueInit around.slots around.data config.packetLength around.time with
          | none => (none, s)
          | some queue => (some ⟨0, 7, 13, 17, config.rtpMode, queue⟩, s)
        else (none, s)) ↔
      (∃ call < 4, outcome call = false) ∨ AllSucceed outcome around config := by
  have room := call_count_room config.rtpMode
  have early : ¬∃ call < 4, outcome call = false := by
    rintro ⟨call, before, failed⟩
    rw [progress.good call (by omega)] at failed
    exact absurd failed (by decide)
  have leaked : ¬Accounted (none, s) := by
    apply unaccounted_of_left_open 0
    · rw [progress.opened]
      decide
    · rw [progress.closed]
      decide
  have queue := queue_init_isSome_iff around.slots around.data config.packetLength around.time
  cases init : around.aoInit with
  | false =>
      apply iff_of_false leaked
      rintro (failed | succeeded)
      · exact early failed
      · exact absurd (init.symm.trans succeeded.2.1) (by decide)
  | true =>
      rw [if_pos rfl]
      cases allocated : aoipQueueInit around.slots around.data config.packetLength around.time with
      | none =>
          rw [allocated] at queue
          apply iff_of_false leaked
          rintro (failed | succeeded)
          · exact early failed
          · exact absurd (queue.mpr succeeded.2.2) (by decide)
      | some built =>
          rw [allocated] at queue
          refine iff_of_true ⟨progress.opened, ?_⟩
            (.inr ⟨progress.good, init, queue.mp rfl⟩)
          intro later
          exact ⟨_, destroy_closes later _ s, List.Perm.swap 0 7 [13, 17], by dsimp only; decide⟩

/-- Nothing is leaked exactly if the configuration is turned down, one of the
first four calls fails, or nothing at all does. -/
theorem sockets_accounted_iff (outcome : Nat → Bool) (around : Surroundings)
    (config : AoipConfig) :
    SocketsAccounted outcome around config ↔
      ¬config.Accepted ∨ (∃ call < 4, outcome call = false) ∨
        AllSucceed outcome around config := by
  rw [SocketsAccounted, create_context_eq]
  by_cases accepted : config.Accepted
  · have ended := network_init_ensures accepted noSockets
      (⟨rfl, rfl, rfl, by omega, by decide, by simp⟩ : Progress outcome [] 0 noSockets)
    cases result : networkInit outcome config noSockets with
    | mk network s =>
        rw [result] at ended
        cases network with
        | none =>
            dsimp only at ended ⊢
            rw [gave_up_accounted_iff around ended]
            simp [accepted]
        | some network =>
            obtain ⟨rfl, progress⟩ := ended
            rw [created_accounted_iff around progress]
            simp [accepted]
  · rw [network_init_rejects outcome accepted]
    exact iff_of_true (fun fd member => absurd member List.not_mem_nil) (.inl accepted)

def sampleConfig : AoipConfig where
  txbuf := true
  rxbuf := true
  ptpMode := .multicast
  ptpDomain := 0
  rtpMode := .recv
  audioFormat := 24
  audioChannels := 2
  audioSamplingRate := 48000
  audioPacketTime := 1000
  timed := by decide

def sampleAround : Surroundings := ⟨true, true, fun _ => true, fun _ => 0⟩

/-- `IP_TOS` cannot be set on the event socket, which stays open. -/
theorem sample_failed_option_leaks :
    aoipCreateContext (fun call => call != 4) sampleAround sampleConfig noSockets =
      (none, ⟨[.socket, .getFlags 0, .setNonblock 0, .bind 0 319, .setTos 0 0xb8], [0], []⟩) ∧
    ¬SocketsAccounted (fun call => call != 4) sampleAround sampleConfig := by
  have created : aoipCreateContext (fun call => call != 4) sampleAround sampleConfig noSockets =
      (none, ⟨[.socket, .getFlags 0, .setNonblock 0, .bind 0 319, .setTos 0 0xb8], [0], []⟩) := rfl
  refine ⟨created, ?_⟩
  rw [SocketsAccounted, created]
  exact unaccounted_of_left_open 0 (by decide) (by decide)

end AoipCore.Context
