import AoipCore.Network.Context

/-!
# The arithmetic of `network_init`

The audio fields of the configuration are not checked by anyone. `network_init`
divides by one of them, narrows a product of four to 16 bits and hands the result
on as the size of every slot of the queue, and `rtp_create_context` multiplies in
`int`. Here the configuration is arbitrary, and what C leaves undefined is a fault.
-/

namespace AoipCore.Context

open Attempts AoipCore.Timer AoipCore.Rtp AoipCore.Queue

set_option autoImplicit false

structure AudioConfig where
  audioFormat : UInt8
  audioChannels : UInt8
  audioSamplingRate : UInt32
  audioPacketTime : UInt16
  deriving DecidableEq, Repr

inductive Fault where
  | divisionByZero
  | signedOverflow
  deriving DecidableEq, Repr

structure RtpCtx where
  rtpPacketLength : UInt16
  rtpSendInterval : NsTime
  deriving DecidableEq, Repr

def packetLength (audio : AudioConfig) : Except Fault UInt16 :=
  match rtpPacketLength audio.audioFormat audio.audioChannels audio.audioSamplingRate
    audio.audioPacketTime with
  | none => .error .divisionByZero
  | some length => .ok length

def intMax : Nat := 2147483647

/-- `audio_packet_time * 1000000`, both of them an `int`. -/
def sendInterval (audioPacketTime : UInt16) : Except Fault NsTime :=
  if audioPacketTime.toNat * 1000000 ≤ intMax then .ok (audioPacketTime.toUInt64 * 1000000)
  else .error .signedOverflow

/-- The results of what `network_init` does besides: the test of `txbuf` and the
calls that create the three contexts. -/
structure InitChecks where
  buffers : Bool
  ptpcCreated : Bool
  sapCreated : Bool
  rtpCreated : Bool
  deriving DecidableEq, Repr

def InitChecks.Passed (checks : InitChecks) : Prop := checks = ⟨true, true, true, true⟩

/-- Giving up is `none`. The interval is computed before `rtp_create_context` can
fail. -/
def initNetwork (checks : InitChecks) (audio : AudioConfig) : Except Fault (Option RtpCtx) :=
  if !checks.buffers then .ok none
  else if !checks.ptpcCreated then .ok none
  else if !checks.sapCreated then .ok none
  else do
    let length ← packetLength audio
    let interval ← sendInterval audio.audioPacketTime
    if !checks.rtpCreated then .ok none
    else .ok (some ⟨length, interval⟩)

/-! ## The calls of a context's creation -/

def AoipConfig.audio (config : AoipConfig) : AudioConfig where
  audioFormat := config.audioFormat
  audioChannels := config.audioChannels
  audioSamplingRate := config.audioSamplingRate
  audioPacketTime := config.audioPacketTime

def initChecks (outcome : Nat → Bool) (config : AoipConfig) : InitChecks :=
  let ptpc := ptpcCreateContext outcome config noSockets
  let sap := sapCreateContext outcome ptpc.2
  let rtp := rtpCreateContext outcome config sap.2
  ⟨config.txbuf, ptpc.1.isSome, sap.1.isSome, rtp.1.isSome⟩

theorem packet_length_config (config : AoipConfig) :
    packetLength config.audio = .ok config.packetLength := by
  obtain ⟨length, computed⟩ := Option.isSome_iff_exists.mp (packet_length_defined config)
  have audio : rtpPacketLength config.audio.audioFormat config.audio.audioChannels
      config.audio.audioSamplingRate config.audio.audioPacketTime = some length := computed
  have stored : config.packetLength = length := by
    rw [AoipConfig.packetLength, Option.get_of_eq_some _ computed]
  rw [packetLength, audio, stored]

def InitChecks.all (checks : InitChecks) : Bool :=
  checks.buffers && checks.ptpcCreated && checks.sapCreated && checks.rtpCreated

theorem network_init_checks (outcome : Nat → Bool) (config : AoipConfig) :
    (networkInit outcome config noSockets).1.isSome = (initChecks outcome config).all := by
  unfold networkInit InitChecks.all initChecks
  cases config.txbuf with
  | false => rfl
  | true =>
      simp only [Bool.not_true, Bool.false_eq_true, if_false, bind_value, Bool.true_and]
      cases (ptpcCreateContext outcome config noSockets).1 with
      | none => rfl
      | some ptpc =>
          simp only [Option.bind_some, Option.isSome_some, Bool.true_and]
          cases (sapCreateContext outcome (ptpcCreateContext outcome config noSockets).2).1 with
          | none => rfl
          | some sapFd =>
              simp only [Option.bind_some, Option.isSome_some, Bool.true_and]
              cases (rtpCreateContext outcome config (sapCreateContext outcome
                (ptpcCreateContext outcome config noSockets).2).2).1 with
              | none => rfl
              | some rtpFd => rfl

theorem init_network_computed (checks : InitChecks) {audio : AudioConfig} {length : UInt16}
    {interval : NsTime} (computed : packetLength audio = .ok length)
    (timed : sendInterval audio.audioPacketTime = .ok interval) :
    initNetwork checks audio = .ok (if checks.all then some ⟨length, interval⟩ else none) := by
  obtain ⟨buffers, ptpc, sap, rtp⟩ := checks
  unfold initNetwork
  rw [computed, timed]
  cases buffers with
  | false => rfl
  | true =>
      cases ptpc with
      | false => rfl
      | true =>
          cases sap with
          | false => rfl
          | true =>
              cases rtp with
              | false => rfl
              | true => rfl

theorem init_network_agrees (outcome : Nat → Bool) (config : AoipConfig)
    (short : config.audioPacketTime.toNat * 1000000 ≤ intMax) :
    initNetwork (initChecks outcome config) config.audio =
      .ok (if (networkInit outcome config noSockets).1.isSome then
        some ⟨config.packetLength, config.audioPacketTime.toUInt64 * 1000000⟩ else none) := by
  rw [init_network_computed _ (packet_length_config config) (if_pos short), network_init_checks]
  rfl

/-! ## When the arithmetic is exact -/

def AudioConfig.exactLength (audio : AudioConfig) : Nat :=
  12 + audio.audioFormat.toNat / 8 * audio.audioChannels.toNat *
    (audio.audioSamplingRate.toNat / audio.audioPacketTime.toNat)

/-- Both roundings, that of the unsigned product and that of the assignment, are
those of 16 bits. -/
theorem packet_length_value {audio : AudioConfig} (timed : audio.audioPacketTime ≠ 0) :
    ∃ length, packetLength audio = .ok length ∧ length.toNat = audio.exactLength % 65536 := by
  have format : (audio.audioFormat >>> 3).toNat = audio.audioFormat.toNat / 8 := by
    rw [UInt8.toNat_shiftRight, Nat.shiftRight_eq_div_pow]
    rfl
  have frame : (audio.audioFormat.toNat / 8 * audio.audioChannels.toNat) % 2 ^ 32 =
      audio.audioFormat.toNat / 8 * audio.audioChannels.toNat := by
    apply Nat.mod_eq_of_lt
    have formatBound := audio.audioFormat.toNat_lt
    have channelBound := audio.audioChannels.toNat_lt
    calc audio.audioFormat.toNat / 8 * audio.audioChannels.toNat
        ≤ 256 * 256 := Nat.mul_le_mul (by omega) (by omega)
      _ < 2 ^ 32 := by decide
  have header : (UInt32.ofNat rtpHdrSize).toNat = 12 := rfl
  refine ⟨_, by rw [packetLength, rtpPacketLength, if_neg timed], ?_⟩
  unfold AudioConfig.exactLength
  rw [UInt32.toNat_toUInt16, UInt32.toNat_add, UInt32.toNat_mul, UInt32.toNat_mul,
    UInt32.toNat_div, UInt8.toNat_toUInt32, UInt8.toNat_toUInt32, UInt16.toNat_toUInt32, format,
    frame, header]
  omega

theorem send_interval_value {audioPacketTime : UInt16}
    (short : audioPacketTime.toNat * 1000000 ≤ intMax) :
    (audioPacketTime.toUInt64 * 1000000).toNat = audioPacketTime.toNat * 1000000 := by
  have factor : (1000000 : UInt64).toNat = 1000000 := rfl
  unfold intMax at short
  rw [UInt64.toNat_mul, UInt16.toNat_toUInt64, factor]
  omega

/-- No fault, the two fields are the exact integers, and every slot of a queue made
with that length has room for the header. -/
def ConfigurationExact (checks : InitChecks) (audio : AudioConfig) : Prop :=
  ∃ rtp, initNetwork checks audio = .ok (some rtp) ∧
    rtp.rtpPacketLength.toNat = audio.exactLength ∧
    rtp.rtpSendInterval.toNat = audio.audioPacketTime.toNat * 1000000 ∧
    ∀ slots data time queue, aoipQueueInit slots data rtp.rtpPacketLength time = some queue →
      ∀ each ∈ queue.slot, rtpHdrSize ≤ each.data.length

theorem queue_slots_sized {slots : Bool} {data : Nat → Bool} {length : UInt16}
    {time : Nat → UInt32} {queue : AoipQueue}
    (created : aoipQueueInit slots data length time = some queue) :
    ∀ each ∈ queue.slot, each.data.length = length.toNat := by
  have stored : queue.dataLen = length := by
    unfold aoipQueueInit at created
    split_ifs at created
    rw [← Option.some.inj created, emptyQueue]
  intro each member
  rw [queue.room each member, stored]

/-! A fault is met once all that comes before it has passed. -/

theorem length_faults {checks : InitChecks} (passed : checks.Passed) {audio : AudioConfig}
    {fault : Fault} (faulty : packetLength audio = .error fault) :
    initNetwork checks audio = .error fault := by
  unfold initNetwork
  rw [passed, faulty]
  rfl

theorem interval_faults {checks : InitChecks} (passed : checks.Passed) {audio : AudioConfig}
    {length : UInt16} {fault : Fault} (computed : packetLength audio = .ok length)
    (faulty : sendInterval audio.audioPacketTime = .error fault) :
    initNetwork checks audio = .error fault := by
  unfold initNetwork
  rw [passed, computed, faulty]
  rfl

theorem faulty_not_exact {checks : InitChecks} {audio : AudioConfig} {fault : Fault}
    (faults : initNetwork checks audio = .error fault) : ¬ConfigurationExact checks audio := by
  intro exact
  obtain ⟨rtp, computed, -⟩ := exact
  rw [faults] at computed
  cases computed

theorem configuration_exact_iff {checks : InitChecks} (passed : checks.Passed)
    (audio : AudioConfig) :
    ConfigurationExact checks audio ↔
      audio.audioPacketTime ≠ 0 ∧ audio.audioPacketTime.toNat ≤ 2147 ∧
        audio.exactLength ≤ 65535 := by
  by_cases timed : audio.audioPacketTime = 0
  · have fault : packetLength audio = .error .divisionByZero := by
      rw [packetLength, rtpPacketLength, if_pos timed]
    have faults := faulty_not_exact (length_faults passed fault)
    constructor
    · intro exact
      exact absurd exact faults
    · intro condition
      exact absurd timed condition.1
  obtain ⟨length, computed, value⟩ := packet_length_value timed
  by_cases short : audio.audioPacketTime.toNat * 1000000 ≤ intMax
  · have init := init_network_computed checks computed (if_pos short)
    rw [passed, InitChecks.all, Bool.and_self, Bool.and_self, Bool.and_self, if_pos rfl] at init
    have milliseconds : audio.audioPacketTime.toNat ≤ 2147 := by
      unfold intMax at short
      omega
    unfold ConfigurationExact
    rw [passed, init]
    constructor
    · intro exact
      obtain ⟨rtp, stored, exactLength, -⟩ := exact
      obtain rfl := Option.some.inj (Except.ok.inj stored)
      have bounded := length.toNat_lt
      change length.toNat = audio.exactLength at exactLength
      exact ⟨timed, milliseconds, by omega⟩
    · intro condition
      have exactLength : length.toNat = audio.exactLength := by omega
      refine ⟨_, rfl, exactLength, send_interval_value short, ?_⟩
      intro slots data time queue created each member
      rw [queue_slots_sized created each member, exactLength]
      exact Nat.le_add_right 12 _
  · have overflow : sendInterval audio.audioPacketTime = .error .signedOverflow := if_neg short
    have faults := faulty_not_exact (interval_faults passed computed overflow)
    constructor
    · intro exact
      exact absurd exact faults
    · intro condition
      unfold intMax at short
      omega

def allPassed : InitChecks := ⟨true, true, true, true⟩

/-- The sample programs: L24, two channels, 48 kHz and a packet time of 1000. -/
theorem sample_configuration_exact : ConfigurationExact allPassed ⟨24, 2, 48000, 1000⟩ := by
  have passed : allPassed.Passed := rfl
  exact (configuration_exact_iff passed _).mpr (by decide)

/-- L24 in stereo with 10921 frames to a packet: the length of 65538 is cut to 2. -/
theorem sample_length_truncated :
    AudioConfig.exactLength ⟨24, 2, 10921, 1⟩ = 65538 ∧
      initNetwork allPassed ⟨24, 2, 10921, 1⟩ = .ok (some ⟨2, 1000000⟩) ∧
      (∀ each ∈ (emptyQueue 2 fun _ => 0).slot, each.data.length = 2) ∧
      ¬ConfigurationExact allPassed ⟨24, 2, 10921, 1⟩ := by
  have computed : initNetwork allPassed ⟨24, 2, 10921, 1⟩ = .ok (some ⟨2, 1000000⟩) := by
    decide
  refine ⟨by decide, computed, (emptyQueue 2 fun _ => 0).room, ?_⟩
  intro exact
  obtain ⟨rtp, stored, length, -⟩ := exact
  rw [computed] at stored
  cases stored
  exact absurd length (by decide)

end AoipCore.Context
