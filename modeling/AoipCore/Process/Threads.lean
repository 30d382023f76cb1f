import AoipCore.Audio
import AoipCore.Network.Report

/-!
# The two threads, pass by pass

`network_cb_run` and `audio_cb_run` as machines that take one pass at a time and read
their stop flag at the moment the pass begins. Whatever point such a machine has come to,
there are inputs on which the function as a whole has come to the same point, and they
contain the flags in the order they were read.
-/

namespace AoipCore.Process

open ControlLoop AoipCore.Host AoipCore.Timer AoipCore.Ptp AoipCore.Queue AoipCore.Sap
  AoipCore.Network AoipCore.Audio

set_option autoImplicit false

/-! ## The network thread -/

/-- Where the thread is inside `network_cb_run`: before it, in one of the three loops, or
about to send one of the two SAP messages. -/
inductive NetworkPc where
  | starting
  | announcing (timer : NsTime) (ptpc : PtpcCtx)
  | syncing (s : SyncLoopState)
  | opening (ptpc : PtpcCtx)
  | serving (msg : SapMsg) (s : MainState)
  | closing (exit : MainExit) (s : MainState)
  | returned (result : NetworkResult)
  deriving DecidableEq

/-- What the environment answers in one step; `begin` is the reading with which a loop
starts, `time` the second at which a SAP message is built. -/
structure NetworkInput where
  begin : NsTime
  now : NsTime
  general : RecvResult
  sender : UInt32
  poll : PtpPoll
  audio : AoipQueue → AoipQueue
  rtpRecv : RecvResult
  slotTime : NsTime
  rtpSend : SendResult
  sapSend : SendResult
  time : Int64

def NetworkInput.announcePass (input : NetworkInput) (stop : Bool) : AnnouncePass :=
  ⟨stop, input.now, input.general, input.sender⟩

def NetworkInput.syncPass (input : NetworkInput) (stop : Bool) : SyncPass := ⟨stop, input.poll⟩

def NetworkInput.mainPass (input : NetworkInput) (stop : Bool) : MainPass :=
  ⟨stop, input.poll, input.audio, input.rtpRecv, input.slotTime, input.rtpSend, input.sapSend⟩

def noRun : NetworkRun := ⟨0, [], 0, [], 0, .sent, 0, [], 0, .sent⟩

def NetworkInput.deletionRun (input : NetworkInput) (env : NetworkRun) : NetworkRun :=
  { env with deletionTime := input.time, deletionSend := input.sapSend }

def afterAnnounce (timer begin : NsTime) : Flow PtpcCtx Int32 → NetworkPc
  | .next ptpc => .announcing timer ptpc
  | .leave ret ptpc =>
      if ret < 0 then .returned (earlyReturn ret) else .syncing (syncLoopStart ptpc begin)

def afterSync : Flow SyncLoopState SyncExit → NetworkPc
  | .next s => .syncing s
  | .leave _ s => if s.ret < 0 then .returned (earlyReturn s.ret) else .opening s.ptp.ptpc

def afterBuild (ctx : AoipCtx) (input : NetworkInput) (ptpc : PtpcCtx) : Option SapMsg → NetworkPc
  | none => .returned (earlyReturn (-1))
  | some msg =>
      if sapSend msg input.sapSend < 0 then .returned (earlyReturn (sapSend msg input.sapSend))
      else .serving msg (mainStart ctx ptpc msg input.begin)

def afterMain (msg : SapMsg) : Flow MainState MainExit → NetworkPc
  | .next s => .serving msg s
  | .leave exit s => .closing exit s

def networkThreadStep (ctx : AoipCtx) (stop : Bool) (input : NetworkInput) : NetworkPc → NetworkPc
  | .starting =>
      if ctx.aoipMode = aoipModeNone then .returned (earlyReturn 0)
      else if ctx.aoipMode = aoipModePlayback ∨ ctx.aoipMode = aoipModeRecord then
        .announcing input.begin ctx.ptpc
      else .returned (earlyReturn (-1))
  | .announcing timer ptpc =>
      afterAnnounce timer input.begin (Ptp.announcePass timer ptpc (input.announcePass stop))
  | .syncing s => afterSync (syncLoopPass s (input.syncPass stop))
  | .opening ptpc =>
      afterBuild ctx input ptpc (aoipBuildSapMsg ctx ptpc sapFlagsAnnounce input.time)
  | .serving msg s => afterMain msg (Network.mainPass ctx msg s (input.mainPass stop))
  | .closing exit s => .returned (sendDeletion ctx (input.deletionRun noRun) exit s)
  | .returned result => .returned result

/-! ## The audio thread -/

inductive AudioPc where
  | opening
  | polling (callback : AudioCall) (s : AudioLoopState)
  | closing (calls : List AudioCall)
  | returned (result : AudioResult)
  deriving DecidableEq

/-- `ret` is what the callback returns that this step calls, if it calls one. -/
structure AudioInput where
  now : NsTime
  ret : Int32
  deriving DecidableEq, Repr

def audioThreadStep (aoipMode : UInt8) (ops : AudioOps) (stop : Bool) (input : AudioInput) :
    AudioPc → AudioPc
  | .opening =>
      if input.ret < 0 then .returned ⟨input.ret, [.aoOpen]⟩
      else if aoipMode = aoipModeNone then .closing [.aoOpen]
      else if aoipMode = aoipModePlayback ∧ ops.aoRead = true then
        .polling .aoRead ⟨input.now, [.aoOpen]⟩
      else if aoipMode = aoipModeRecord ∧ ops.aoWrite = true then
        .polling .aoWrite ⟨input.now, [.aoOpen]⟩
      else .returned ⟨-1, [.aoOpen]⟩
  | .polling callback s =>
      match audioPass callback s ⟨stop, input.now, input.ret⟩ with
      | .next s => .polling callback s
      | .leave ret s => if ret < 0 then .returned ⟨ret, s.calls⟩ else .closing s.calls
  | .closing calls =>
      .returned ⟨if input.ret < 0 then input.ret else 0, calls ++ [.aoClose]⟩
  | .returned result => .returned result

/-! ## What the network thread has done -/

section

variable {ctx : AoipCtx} {env : NetworkRun}

end

/-! ## What the audio thread has done -/

section

variable {aoipMode : UInt8} {ops : AudioOps} {env : AudioRun}

end

end AoipCore.Process
