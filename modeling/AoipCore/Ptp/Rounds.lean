import AoipCore.Ptp.Protocol
import Mathlib.Data.List.Chain

/-!
# What a client makes of a regular master, and of a disturbed one

A master sends a Sync and its Follow_Up in every round and answers requests
with a Delay_Resp. An exchange is not given up when it has been measured, so
the Sync of the next round finds the client busy and that round's Follow_Up
only clears the state: exactly every second round is measured. And since the
sequence id is tested before the clock id, any message of version 2 and domain
0 with another sequence id clears an exchange and sets the timer.
-/

namespace AoipCore.Ptp

open ControlLoop Transducer AoipCore.Host AoipCore.Timer

set_option autoImplicit false

/-! ## Runs of the protocol in which nothing is refused or late -/

/-- Every pass brings a message that is asked for or comes less than two
seconds after the last one that did. -/
def Punctual (asked : Heard → Bool) : NsTime → List Arrival → Prop
  | _, [] => True
  | since, arrival :: rest =>
      (arrival.messages.any asked = false →
        since ≤ arrival.now ∧ nsSub arrival.now since < timeoutPtpTimer) ∧
      Punctual asked (if arrival.messages.any asked then arrival.now else since) rest

instance decidablePunctual (asked : Heard → Bool) :
    (since : NsTime) → (arrivals : List Arrival) → Decidable (Punctual asked since arrivals)
  | _, [] => .isTrue trivial
  | since, arrival :: rest =>
      have := decidablePunctual asked (if arrival.messages.any asked then arrival.now else since) rest
      inferInstanceAs (Decidable ((_ → _) ∧ _))

def stream (arrivals : List Arrival) : List Heard := arrivals.flatMap Arrival.messages

theorem elapsed_shorter {since later now limit : NsTime} (order : since ≤ later)
    (behind : later ≤ now) (short : nsSub now since < limit) : nsSub now later < limit := by
  have before : since ≤ now := UInt64.le_trans order behind
  rw [nsSub, UInt64.lt_iff_toNat_lt, UInt64.toNat_sub_of_le _ _ before] at short
  rw [nsSub, UInt64.lt_iff_toNat_lt, UInt64.toNat_sub_of_le _ _ behind]
  rw [UInt64.le_iff_toNat_le] at order
  omega

theorem nothing_elapsed (now : NsTime) : nsSub now now < timeoutPtpTimer := by
  rw [nsSub, UInt64.sub_self]
  decide

theorem protocol_pass_next {session : PtpSession} {arrival : Arrival} (unsynced : session.measured ≠ 10)
    (calm : .refused ∉ exchange.reactions session.phase arrival.messages)
    (short : nsSub arrival.now (session.after arrival).since < timeoutPtpTimer) :
    protocolPass session arrival = .next (session.after arrival) := by
  unfold protocolPass
  rw [if_neg unsynced, if_neg calm, if_neg (UInt64.not_le.mpr short)]

/-- As long as no message is refused and the messages asked for keep coming,
the loop goes on until ten exchanges are measured. -/
theorem protocol_run {asked : Heard → Bool} (arrivals : List Arrival) (session : PtpSession)
    (last since : NsTime) (ordered : (last :: arrivals.map Arrival.now).IsChain (· ≤ ·))
    (behind : session.since ≤ last) (floor : since ≤ session.since)
    (punctual : Punctual asked since arrivals)
    (answers : exchange.Answers asked Reaction.restarts session.phase (stream arrivals))
    (calm : .refused ∉ exchange.reactions session.phase (stream arrivals)) :
    (∃ reached, run protocolPass session arrivals = .next reached ∧
        reached.phase = exchange.final session.phase (stream arrivals) ∧
        reached.measured = session.measured +
          (exchange.reactions session.phase (stream arrivals)).count .measured) ∨
      (∃ reached, run protocolPass session arrivals = .leave .synced reached ∧
        session.measured ≤ 10 ∧ 10 ≤ session.measured +
          (exchange.reactions session.phase (stream arrivals)).count .measured) := by
  induction arrivals generalizing session last since with
  | nil => exact .inl ⟨session, rfl, rfl, rfl⟩
  | cons arrival rest ih =>
      have split : stream (arrival :: rest) = arrival.messages ++ stream rest := List.flatMap_cons
      rw [split, reactions_append, List.mem_append, not_or] at calm
      rw [split, answers_append] at answers
      rw [List.map_cons, List.isChain_cons_cons] at ordered
      by_cases synced : session.measured = 10
      · refine .inr ⟨session, ?_, by omega, by omega⟩
        rw [run, protocolPass, if_pos synced]
      have current : session.since ≤ arrival.now := UInt64.le_trans behind ordered.1
      obtain ⟨due, onward⟩ := punctual
      obtain ⟨timer, short⟩ : (session.after arrival).since ≤ arrival.now ∧
          nsSub arrival.now (session.after arrival).since < timeoutPtpTimer := by
        unfold PtpSession.after
        dsimp only
        split_ifs with restarted
        · exact ⟨UInt64.le_refl _, nothing_elapsed _⟩
        · have absent : arrival.messages.any asked = false := by
            rw [← Bool.not_eq_true]
            exact fun present => restarted (answers_any exchange answers.1 present)
          exact ⟨current, elapsed_shorter floor current (due absent).2⟩
      have kept : (if arrival.messages.any asked then arrival.now else since) ≤
          (session.after arrival).since := by
        unfold PtpSession.after
        dsimp only
        split_ifs with present restarted restarted
        · exact UInt64.le_refl _
        · exact absurd (answers_any exchange answers.1 present) restarted
        · exact UInt64.le_trans floor current
        · exact floor
      have step := protocol_pass_next synced calm.1 short
      have measured : (session.after arrival).measured = session.measured +
          (exchange.reactions session.phase arrival.messages).count .measured := rfl
      have phase : (session.after arrival).phase =
          exchange.final session.phase arrival.messages := rfl
      rw [run_next step, split, final_append, reactions_append, List.count_append, ← phase,
        ← Nat.add_assoc, ← measured]
      rcases ih (session.after arrival) arrival.now _ ordered.2 timer kept onward answers.2 calm.2
        with ⟨reached, goes⟩ | ⟨reached, left, few, enough⟩
      · exact .inl ⟨reached, goes⟩
      · exact .inr ⟨reached, left, by omega, enough⟩

/-! ## A regular master -/

/-- One round of the master: a Sync, its Follow_Up, and the answers to
whoever sent a request with its sequence id. -/
structure Round where
  seq : UInt16
  responses : Nat
  deriving DecidableEq, Repr

def Round.messages (round : Round) : List Heard :=
  [.sync round.seq, .general ptpMsgidFollowUp round.seq true] ++
    List.replicate round.responses (.general ptpMsgidDelayResp round.seq true)

def isFollowUp : Heard → Bool
  | .general kind _ _ => kind == ptpMsgidFollowUp
  | .sync _ => false

theorem round_taken (held : UInt16) (round : Round) :
    exchange.final ⟨.sInit, held⟩ round.messages = ⟨.sFollowUp, round.seq⟩ ∧
      exchange.reactions ⟨.sInit, held⟩ round.messages =
        [.started, .requested] ++ List.replicate round.responses .measured := by
  have stays : exchange.hear ⟨.sFollowUp, round.seq⟩ (.general ptpMsgidDelayResp round.seq true) =
      ⟨.sFollowUp, round.seq⟩ := by
    simp [exchange, Phase.hear, Phase.react]
  have measures : exchange.react ⟨.sFollowUp, round.seq⟩
      (.general ptpMsgidDelayResp round.seq true) = .measured := by
    simp [exchange, Phase.react]
  have opened : exchange.final ⟨.sInit, held⟩
        [.sync round.seq, .general ptpMsgidFollowUp round.seq true] = ⟨.sFollowUp, round.seq⟩ ∧
      exchange.reactions ⟨.sInit, held⟩
        [.sync round.seq, .general ptpMsgidFollowUp round.seq true] = [.started, .requested] := by
    simp [exchange, Phase.hear, Phase.react]
  obtain ⟨final, shown⟩ := hears_repeated exchange stays round.responses
  rw [Round.messages, final_append, reactions_append, opened.1, opened.2, final, shown, measures]
  exact ⟨rfl, rfl⟩

theorem round_passed_over {held : UInt16} {round : Round} (other : held ≠ round.seq) :
    exchange.final ⟨.sFollowUp, held⟩ round.messages = ⟨.sInit, held⟩ ∧
      exchange.reactions ⟨.sFollowUp, held⟩ round.messages =
        [.ignored, .dropped] ++ List.replicate round.responses .dropped := by
  have stays : exchange.hear ⟨.sInit, held⟩ (.general ptpMsgidDelayResp round.seq true) =
      ⟨.sInit, held⟩ := by
    simp [exchange, Phase.hear, Phase.react, other.symm]
  have drops : exchange.react ⟨.sInit, held⟩
      (.general ptpMsgidDelayResp round.seq true) = .dropped := by
    simp [exchange, Phase.react, other.symm]
  have opened : exchange.final ⟨.sFollowUp, held⟩
        [.sync round.seq, .general ptpMsgidFollowUp round.seq true] = ⟨.sInit, held⟩ ∧
      exchange.reactions ⟨.sFollowUp, held⟩
        [.sync round.seq, .general ptpMsgidFollowUp round.seq true] = [.ignored, .dropped] := by
    simp [exchange, Phase.hear, Phase.react, other.symm]
  obtain ⟨final, shown⟩ := hears_repeated exchange stays round.responses
  rw [Round.messages, final_append, reactions_append, opened.1, opened.2, final, shown, drops]
  exact ⟨rfl, rfl⟩

theorem round_answers {phase : Phase} {round : Round} {first second : Reaction}
    {rest : List Reaction}
    (shown : exchange.reactions phase round.messages = [first, second] ++ rest)
    (restarts : second.restarts = true) :
    exchange.Answers isFollowUp Reaction.restarts phase round.messages := by
  have aligned : [Heard.sync round.seq, .general ptpMsgidFollowUp round.seq true].length =
      [first, second].length := rfl
  intro pair member asked
  rw [shown, Round.messages, List.zip_append aligned] at member
  rcases List.mem_append.mp member with opening | response
  · rcases List.mem_pair.mp opening with rfl | rfl
    · cases asked
    · exact restarts
  · -- only Delay_Resp messages are left, and they are not asked for
    have kind := List.eq_of_mem_replicate (List.of_mem_zip response).1
    rw [kind] at asked
    cases asked

/-- The Delay_Resp messages of the first, the third, the fifth round and so
on. -/
def served : List Round → Nat
  | [] => 0
  | [round] => round.responses
  | taken :: _ :: rest => taken.responses + served rest

/-- How a client that waits reacts to rounds in which the sequence id always
changes. -/
structure Regular (held : UInt16) (rounds : List Round) : Prop where
  measured : (exchange.reactions ⟨.sInit, held⟩ (rounds.flatMap Round.messages)).count .measured =
    served rounds
  calm : .refused ∉ exchange.reactions ⟨.sInit, held⟩ (rounds.flatMap Round.messages)
  answers : exchange.Answers isFollowUp Reaction.restarts ⟨.sInit, held⟩
    (rounds.flatMap Round.messages)

theorem regular_rounds (rounds : List Round) (held : UInt16)
    (changing : rounds.IsChain fun first second => first.seq ≠ second.seq) :
    Regular held rounds := by
  induction rounds using served.induct generalizing held with
  | case1 => exact ⟨rfl, by simp, by simp [Machine.Answers]⟩
  | case2 round =>
      obtain ⟨-, shown⟩ := round_taken held round
      have one : [round].flatMap Round.messages = round.messages := List.flatMap_singleton _ _
      constructor
      · rw [one, shown, List.count_append, List.count_replicate_self]
        exact Nat.zero_add _
      · rw [one, shown]
        simp
      · rw [one]
        exact round_answers shown rfl
  | case3 taken passed rest ih =>
      rw [List.isChain_cons_cons] at changing
      obtain ⟨busy, shown⟩ := round_taken held taken
      obtain ⟨idle, dropped⟩ := round_passed_over changing.1
      obtain ⟨measured, calm, answers⟩ := ih taken.seq changing.2.of_cons
      have two : (taken :: passed :: rest).flatMap Round.messages =
          taken.messages ++ (passed.messages ++ rest.flatMap Round.messages) := rfl
      constructor
      · rw [two, reactions_append, reactions_append, busy, idle, shown, dropped]
        simp only [List.count_append, List.count_replicate_self, measured, served]
        simp [List.count_replicate]
      · rw [two, reactions_append, reactions_append, busy, idle, shown, dropped]
        simpa using calm
      · rw [two, answers_append, answers_append, busy, idle]
        exact ⟨round_answers shown rfl, round_answers dropped rfl, answers⟩

theorem steady_ordered (serverId : UInt64) (passes : List SyncPass) (last : NsTime)
    (steady : Steady last passes) :
    (last :: (passes.map (arrivalOf serverId)).map Arrival.now).IsChain (· ≤ ·) := by
  induction passes generalizing last with
  | nil => exact .singleton last
  | cons pass rest ih =>
      obtain ⟨-, ⟨later, -⟩, onward⟩ := steady
      rw [List.map_cons, List.map_cons, List.isChain_cons_cons]
      exact ⟨later, ih pass.poll.now onward⟩

/-- The protocol's verdict on a stream, carried over to the loop of the
source. -/
theorem sync_loop_outcome (ptpc : PtpcCtx) (start : NsTime) (passes : List SyncPass)
    (asked : Heard → Bool) (steady : Steady start passes)
    (punctual : Punctual asked start (passes.map (arrivalOf ptpc.ptpServerId)))
    (answers : exchange.Answers asked Reaction.restarts ⟨.sInit, 0⟩
      (stream (passes.map (arrivalOf ptpc.ptpServerId))))
    (calm : .refused ∉ exchange.reactions ⟨.sInit, 0⟩
      (stream (passes.map (arrivalOf ptpc.ptpServerId)))) :
    let measured := (exchange.reactions ⟨.sInit, 0⟩
      (stream (passes.map (arrivalOf ptpc.ptpServerId)))).count .measured
    (∃ s, ptpcSyncLoop ptpc start passes = .next s ∧ s.ptp.sync.syncedCount.toNat = measured) ∨
      (∃ s, ptpcSyncLoop ptpc start passes = .leave .synced s ∧ 10 ≤ measured) := by
  have follows := sync_loop_follows_protocol ptpc start passes steady
  rcases protocol_run (passes.map (arrivalOf ptpc.ptpServerId)) (sessionStart start) start start
    (steady_ordered ptpc.ptpServerId passes start steady) (UInt64.le_refl start)
    (UInt64.le_refl start) punctual answers calm with
    ⟨reached, goes, -, counted⟩ | ⟨reached, left, -, enough⟩
  · rw [follows] at goes
    obtain ⟨s, loop, same⟩ := flow_map_next goes
    refine .inl ⟨s, loop, ?_⟩
    have count : (sessionOf s).measured = s.ptp.sync.syncedCount.toNat := rfl
    rw [← count, same, counted]
    exact Nat.zero_add _
  · rw [follows] at left
    obtain ⟨s, loop, -⟩ := flow_map_leave left
    refine .inr ⟨s, loop, ?_⟩
    have none : (sessionStart start).measured = 0 := rfl
    rw [none, Nat.zero_add] at enough
    exact enough

/-- With one answer in each round, every second one is served. -/
theorem served_half (rounds : List Round) (answered : ∀ round ∈ rounds, round.responses = 1) :
    served rounds = (rounds.length + 1) / 2 := by
  induction rounds using served.induct with
  | case1 => rfl
  | case2 round =>
      rw [served, answered round (List.mem_singleton_self round), List.length_singleton]
  | case3 taken passed rest ih =>
      have one := answered taken List.mem_cons_self
      have others := ih fun round member =>
        answered round (List.mem_cons_of_mem _ (List.mem_cons_of_mem _ member))
      rw [served, one, others, List.length_cons, List.length_cons]
      omega

theorem synced_pass_leaves {s : SyncLoopState} {pass : SyncPass} (running : pass.stop = false)
    (ten : s.ptp.sync.syncedCount.toNat = 10) :
    syncLoopPass s pass = .leave .synced { s with ptp := s.ptp.tick pass.poll.now } := by
  have synced : s.ptp.sync.syncedCount = 10 := UInt8.toNat_inj.mp ten
  rw [syncLoopPass, running, if_neg Bool.false_ne_true, if_pos synced]

/-- Under a regular and punctual master the loop waits, having measured every
second round, until ten of them have been answered, and then leaves synced. -/
theorem regular_master_synchronises (ptpc : PtpcCtx) (start : NsTime) (passes : List SyncPass)
    (rounds : List Round) (steady : Steady start passes)
    (brings : stream (passes.map (arrivalOf ptpc.ptpServerId)) = rounds.flatMap Round.messages)
    (changing : rounds.IsChain fun first second => first.seq ≠ second.seq)
    (punctual : Punctual isFollowUp start (passes.map (arrivalOf ptpc.ptpServerId))) :
    (served rounds < 10 → ∃ s, ptpcSyncLoop ptpc start passes = .next s ∧
      s.ptp.sync.syncedCount.toNat = served rounds) ∧
    (served rounds = 10 → ∀ pass, pass.stop = false →
      ∃ s, ptpcSyncLoop ptpc start (passes ++ [pass]) = .leave .synced s) ∧
    ((∀ round ∈ rounds, round.responses = 1) → served rounds = (rounds.length + 1) / 2) := by
  obtain ⟨measured, calm, answers⟩ := regular_rounds rounds 0 changing
  rw [← brings] at measured calm answers
  have outcome := sync_loop_outcome ptpc start passes isFollowUp steady punctual answers calm
  dsimp only at outcome
  rw [measured] at outcome
  refine ⟨?_, ?_, served_half rounds⟩
  · intro few
    rcases outcome with waiting | ⟨s, -, enough⟩
    · exact waiting
    · omega
  · intro ten pass running
    rw [ptpcSyncLoop, run_append]
    rcases outcome with ⟨s, waiting, counted⟩ | ⟨s, left, -⟩
    · rw [ptpcSyncLoop] at waiting
      rw [waiting]
      exact ⟨_, (run_single syncLoopPass s pass).trans
        (synced_pass_leaves running (counted.trans ten))⟩
    · rw [ptpcSyncLoop] at left
      rw [left]
      exact ⟨s, rfl⟩

/-! Three rounds with one Delay_Resp each, a second apart. -/

def roundMsg (kind low : UInt8) : Bytes :=
  [kind, 2, 0, 44, 0, 0, 2, 0] ++ List.replicate 12 0 ++
    [0x1d, 0xc1, 0xff, 0xfe, 0x51, 0x23, 0x78, 0x00] ++ [0, 1, low, 0, 0, 0] ++
    List.replicate 10 0

def roundPass (now : NsTime) (event general : RecvResult) : SyncPass where
  stop := false
  poll := { now := now, t2 := now, event := event, general := general, send := .sent, t3 := now }

/-- The passes of one round: the Sync with its Follow_Up, a pass without any
message, and the Delay_Resp. -/
def roundPasses (now : NsTime) (low : UInt8) : List SyncPass :=
  [roundPass now (.datagram (roundMsg ptpMsgidSync low)) (.datagram (roundMsg ptpMsgidFollowUp low)),
    roundPass (now + 1000) .again .again,
    roundPass (now + 2000) .again (.datagram (roundMsg ptpMsgidDelayResp low))]

def sampleRounds : List SyncPass :=
  roundPasses 1000 1 ++ roundPasses 1000001000 2 ++ roundPasses 2000001000 3

set_option maxRecDepth 5000 in
theorem sample_regular_master :
    ∃ s, ptpcSyncLoop sampleCtx 1000 sampleRounds = .next s ∧
      s.ptp.sync.syncedCount.toNat = 2 :=
  (regular_master_synchronises sampleCtx 1000 sampleRounds [⟨1, 1⟩, ⟨2, 1⟩, ⟨3, 1⟩] (by decide)
    (by decide) (by decide) (by decide)).1 (by decide)

/-! ## A disturbed master -/

/-- A general message whose sequence id is not one of the master's. -/
def isForeign (foreign : UInt16 → Bool) : Heard → Bool
  | .general _ seq _ => foreign seq
  | .sync _ => false

/-- No Sync has a foreign sequence id, the master's other messages come from
its clock, and none of its Delay_Resp messages comes before a foreign message
has followed the last Sync; `begun` says that one is still missing. -/
def disturbed (foreign : UInt16 → Bool) : Bool → List Heard → Bool
  | _, [] => true
  | _, .sync seq :: rest => !foreign seq && disturbed foreign true rest
  | begun, .general kind seq own :: rest =>
      if foreign seq then disturbed foreign false rest
      else own && !(begun && kind == ptpMsgidDelayResp) && disturbed foreign begun rest

/-- How the protocol fares in a disturbed stream. -/
structure Starved (foreign : UInt16 → Bool) (phase : Phase) (messages : List Heard) : Prop where
  unmeasured : (exchange.reactions phase messages).count .measured = 0
  calm : .refused ∉ exchange.reactions phase messages
  answers : exchange.Answers (isForeign foreign) Reaction.restarts phase messages

theorem starved_cons {foreign : UInt16 → Bool} {phase : Phase} {message : Heard}
    {rest : List Heard} (later : Starved foreign (phase.hear message) rest)
    (unmeasured : phase.react message ≠ .measured) (accepted : phase.react message ≠ .refused)
    (answered : isForeign foreign message = true → (phase.react message).restarts = true) :
    Starved foreign phase (message :: rest) where
  unmeasured := by
    change List.count _ (phase.react message :: _) = 0
    rw [List.count_cons_of_ne unmeasured]
    exact later.unmeasured
  calm := by
    rw [reactions_cons, List.mem_cons, not_or]
    exact ⟨accepted.symm, later.calm⟩
  answers := by
    intro pair member asked
    rw [reactions_cons, List.zip_cons_cons] at member
    rcases List.mem_cons.mp member with rfl | inside
    · exact answered asked
    · exact later.answers pair inside asked

theorem hear_general_seqid (phase : Phase) (kind : UInt8) (seq : UInt16) (own : Bool) :
    (phase.hear (.general kind seq own)).seqid = phase.seqid := by
  rw [hear_general]
  cases phase.react (.general kind seq own) <;> rfl

theorem hear_general_waiting {phase : Phase} (waiting : phase.state = .sInit) (kind : UInt8)
    (seq : UInt16) (own : Bool) : (phase.hear (.general kind seq own)).state = .sInit := by
  rw [hear_general]
  cases reaction : phase.react (.general kind seq own) with
  | requested =>
      rw [(requested_needs reaction).1] at waiting
      cases waiting
  | dropped => rfl
  | ignored => exact waiting
  | started => exact waiting
  | refused => exact waiting
  | measured => exact waiting

theorem disturbed_starves (foreign : UInt16 → Bool) (messages : List Heard) (begun : Bool)
    (phase : Phase) (held : foreign phase.seqid = false)
    (waiting : begun = false → phase.state = .sInit)
    (stream : disturbed foreign begun messages = true) : Starved foreign phase messages := by
  induction messages generalizing begun phase with
  | nil => exact ⟨rfl, by simp, by simp [Machine.Answers]⟩
  | cons message rest ih =>
      cases message with
      | sync seq =>
          simp only [disturbed, Bool.and_eq_true, Bool.not_eq_true'] at stream
          by_cases initial : phase.state = .sInit
          · apply starved_cons
            · apply ih true _ _ (by simp) stream.2
              simp [Phase.hear, Phase.react, initial, stream.1]
            all_goals simp [Phase.react, initial, isForeign]
          · apply starved_cons
            · apply ih true _ _ (by simp) stream.2
              simp [Phase.hear, Phase.react, initial, held]
            all_goals simp [Phase.react, initial, isForeign]
      | general kind seq own =>
          rw [disturbed] at stream
          split_ifs at stream with other
          · have different : seq ≠ phase.seqid := by
              rintro rfl
              rw [held] at other
              cases other
            have drops : phase.react (.general kind seq own) = .dropped := by
              simp [Phase.react, different]
            have cleared : (phase.hear (.general kind seq own)).state = .sInit := by
              rw [hear_general, drops]
            refine starved_cons (ih false _ ?_ (fun _ => cleared) stream) ?_ ?_ ?_
            · rwa [hear_general_seqid]
            all_goals simp [drops, Reaction.restarts]
          · simp only [Bool.and_eq_true, Bool.not_eq_true', Bool.and_eq_false_iff,
              beq_eq_false_iff_ne] at stream
            obtain ⟨⟨rfl, early⟩, onward⟩ := stream
            refine starved_cons (ih begun _ ?_ ?_ onward) ?_ ?_ ?_
            · rwa [hear_general_seqid]
            · intro none
              exact hear_general_waiting (waiting none) kind seq true
            · -- a Delay_Resp is measured only in a state that a Sync has led to
              intro measured
              obtain ⟨followed, response⟩ := measured_needs measured
              rcases early with none | otherKind
              · rw [waiting none] at followed
                cases followed
              · exact otherKind response
            · intro refused
              cases refused_needs refused
            · intro foreignSeq
              exact absurd foreignSeq other

theorem unmeasured_results {ptpc : PtpcCtx} {start : NsTime} {past : List PtpPassed} {s : PtpState}
    (history : History ptpPass (ptpLoopStart ptpc start) past s) (none : measurements past = 0) :
    results s = (ptpc.meanPathDelay, ptpc.ptpOffset) := by
  induction history with
  | start => rfl
  | @pass past s next prior poll step ih =>
      unfold measurements at none ih
      rw [List.countP_append, Nat.add_eq_zero_iff, List.countP_singleton] at none
      obtain ⟨called, -, rfl⟩ := pass_falls_through s next poll step
      rw [general_call_results, ih none.1]
      intro kind
      have measured : measures (s, poll) = true := by
        simp [measures, acceptsDelayResp, called, kind]
      rw [measured] at none
      cases none.2

/-- Foreign messages that keep coming between the master's Sync and Delay_Resp
hold the loop for ever: nothing is measured, and the timeout never expires. -/
theorem disturbance_starves_without_timeout (ptpc : PtpcCtx) (start : NsTime)
    (passes : List SyncPass) (foreign : UInt16 → Bool) (steady : Steady start passes)
    (initial : foreign 0 = false)
    (brings : disturbed foreign false (stream (passes.map (arrivalOf ptpc.ptpServerId))) = true)
    (punctual : Punctual (isForeign foreign) start (passes.map (arrivalOf ptpc.ptpServerId))) :
    ∃ s, ptpcSyncLoop ptpc start passes = .next s ∧ s.ptp.sync.syncedCount = 0 ∧
      results s.ptp = (ptpc.meanPathDelay, ptpc.ptpOffset) := by
  obtain ⟨unmeasured, calm, answers⟩ :=
    disturbed_starves foreign _ false ⟨.sInit, 0⟩ initial (fun _ => rfl) brings
  have outcome := sync_loop_outcome ptpc start passes _ steady punctual answers calm
  dsimp only at outcome
  rw [unmeasured] at outcome
  rcases outcome with ⟨s, waiting, counted⟩ | ⟨s, -, enough⟩
  · refine ⟨s, waiting, UInt8.toNat_inj.mp counted, ?_⟩
    obtain ⟨past, history⟩ := run_next_history .start passes waiting
    have none := (sync_history_count history).1
    rw [counted] at none
    exact unmeasured_results (sync_history_ptp history) none.symm
  · exact absurd enough (by decide)

/-- The rounds again, with an Announce of the same clock under its own sequence
id after every Follow_Up. -/
def disturbedPasses (now : NsTime) (low : UInt8) : List SyncPass :=
  [roundPass now (.datagram (roundMsg ptpMsgidSync low)) (.datagram (roundMsg ptpMsgidFollowUp low)),
    roundPass (now + 1000) .again (.datagram (roundMsg ptpMsgidAnnounce 200)),
    roundPass (now + 2000) .again (.datagram (roundMsg ptpMsgidDelayResp low))]

def sampleDisturbed : List SyncPass :=
  disturbedPasses 1000 1 ++ disturbedPasses 1000001000 2 ++ disturbedPasses 2000001000 3

set_option maxRecDepth 5000 in
theorem sample_disturbance_starves :
    ∃ s, ptpcSyncLoop sampleCtx 1000 sampleDisturbed = .next s ∧ s.ptp.sync.syncedCount = 0 ∧
      results s.ptp = (sampleCtx.meanPathDelay, sampleCtx.ptpOffset) :=
  disturbance_starves_without_timeout sampleCtx 1000 sampleDisturbed (fun seq => seq == 200)
    (by decide) (by decide) (by decide) (by decide)

end AoipCore.Ptp
