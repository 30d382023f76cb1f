import AoipCore.Ptp.StaleBuffer
import AoipCore.Sap.Roundtrip

/-!
# The message of an announced session

What `build_sap_msg` leaves in the message, byte for byte, for the names that a
configuration can hold. The clock identity goes from an Announce into a word and
from the word into the text; both ways keep the order of the bytes.
-/

namespace AoipCore.Sap

open ByteBuffer DecimalText AoipCore.Host AoipCore.Inet AoipCore.Ptp

set_option autoImplicit false

theorem media_attr3_eq (ptpServerId : UInt64) :
    mediaAttr3 ptpServerId =
      ascii "a=ts-refclk:ptp=IEEE1588-2008:" ++
        (ascii "-").intercalate ((littleBytes 8 ptpServerId.toNat).map twoHex) ++
        ascii ":0\r\n" := by
  obtain ⟨b0, b1, b2, b3, b4, b5, b6, b7, bytes⟩ : ∃ b0 b1 b2 b3 b4 b5 b6 b7,
      littleBytes 8 ptpServerId.toNat = [b0, b1, b2, b3, b4, b5, b6, b7] :=
    ⟨_, _, _, _, _, _, _, _, rfl⟩
  delta mediaAttr3
  simp only [bytes, List.map_cons, List.map_nil, List.intercalate_cons_cons,
    List.intercalate_singleton, List.append_assoc]
  rfl

theorem announced_identity {ctx announced : PtpcCtx} {datagram : Bytes} {sender : UInt32}
    (whole : 28 ≤ datagram.length)
    (accepted : ptpcRecvAnnounceMsg ctx (.datagram datagram) sender = (1, announced)) :
    littleBytes 8 announced.ptpServerId.toNat = slice datagram 20 8 := by
  have stored : announced.ptpServerId = clockId (ctx.rxbuf.receive datagram).bytes := by
    unfold ptpcRecvAnnounceMsg at accepted
    dsimp only [PtpcCtx.receive] at accepted
    split_ifs at accepted
    · exact absurd (Prod.mk.inj accepted).1 (by decide)
    · rw [← (Prod.mk.inj accepted).2]
    · exact absurd (Prod.mk.inj accepted).1 (by decide)
    · exact absurd (Prod.mk.inj accepted).1 (by decide)
  have size : ptpPacketBufSize = 256 := rfl
  have cut : ctx.rxbuf.receive datagram = ctx.rxbuf.receive (datagram.take ptpPacketBufSize) := by
    rw [PacketBuf.receive, PacketBuf.receive, List.take_take, Nat.min_self]
  have received : slice (ctx.rxbuf.receive datagram).bytes 20 8 = slice datagram 20 8 := by
    rw [cut, received_slice _ _ (List.length_take_le _ _) 20 8 (by rw [List.length_take]; omega),
      slice_take _ (by omega)]
  have bytes := little_bytes_value (slice datagram 20 8)
  rw [slice_length (by omega)] at bytes
  rw [stored, clockId, field64_value, received, bytes]

theorem sdp_lines_terminated (session : Session) (now : Int32) :
    ∀ line ∈ sdpLines session now, ascii "\r\n" <:+ line := by
  have clock : ascii "\r\n" <:+ mediaAttr3 session.ptpServerId := by
    have ending : ascii "\r\n" <:+ ascii ":0\r\n" := by decide
    delta mediaAttr3
    exact ending.trans (List.suffix_append _ _)
  have connect : ascii "\r\n" <:+ connectInfo session.rtpMcastAddr := by
    have ending : ascii "\r\n" <:+ ascii "/15\r\n" := by decide
    exact ending.trans (List.suffix_append _ _)
  have fixed : ascii "\r\n" <:+ verDesc ∧ ascii "\r\n" <:+ mediaTitle ∧ ascii "\r\n" <:+ timeActive ∧
      ascii "\r\n" <:+ mediaName ∧ ascii "\r\n" <:+ mediaAttr1 ∧ ascii "\r\n" <:+ mediaAttr2 ∧
      ascii "\r\n" <:+ mediaAttr4 := by decide
  obtain ⟨version, title, active, media, attr1, attr2, attr4⟩ := fixed
  simp only [sdpLines, closingLines, List.cons_append, List.nil_append, List.forall_mem_cons,
    List.not_mem_nil, false_implies, implies_true, and_true]
  exact ⟨version, List.suffix_append _ _, List.suffix_append _ _, title, connect, active, media,
    List.suffix_append _ _, attr1, attr2, clock, attr4⟩

theorem built_header (session : Session) (sapFlags : UInt8) (now : Int32) :
    (sapMsgOf session sapFlags now).data.take sapHdrSize = sapHeader session.localAddr sapFlags := by
  have length : (sapHeader session.localAddr sapFlags).length = sapHdrSize := rfl
  have data : (sapMsgOf session sapFlags now).data =
      sapHeader session.localAddr sapFlags ++ (sapMsgOf session sapFlags now).sdp := rfl
  rw [data, ← length, List.take_left]

/-- The message is these twelve lines behind the header and zeros behind them. No line is
cut, and the clock is the one of the Announce. -/
theorem sap_message_is_exact (session : Session) (sapFlags : UInt8) (time : Int64)
    (named : (cString session.streamName).length ≤ 31) :
    ∃ msg lines, buildSapMsg session sapFlags time = some msg ∧
      lines =
        [ascii "v=0\r\n",
          ascii "o=- " ++ signedDecimal time.toInt32.toInt ++ ascii " " ++
            signedDecimal time.toInt32.toInt ++ ascii " IN IP4 " ++ inetNtoa session.localAddr ++
            ascii "\r\n",
          ascii "s=" ++ cString session.streamName ++ ascii "\r\n",
          ascii "i=2 channels: Left, Right\r\n",
          ascii "c=IN IP4 " ++ inetNtoa session.rtpMcastAddr ++ ascii "/15\r\n",
          ascii "t=0 0\r\n",
          ascii "m=audio 5004 RTP/AVP 98\r\n",
          ascii "a=rtpmap:98 L" ++ decimal session.audioFormat.toNat ++ ascii "/" ++
            signedDecimal session.audioSamplingRate.toInt32.toInt ++ ascii "/" ++
            decimal session.audioChannels.toNat ++ ascii "\r\n",
          ascii "a=recvonly\r\n",
          ascii "a=ptime:1\r\n",
          ascii "a=ts-refclk:ptp=IEEE1588-2008:" ++
            (ascii "-").intercalate ((littleBytes 8 session.ptpServerId.toNat).map twoHex) ++
            ascii ":0\r\n",
          ascii "a=mediaclk:direct=0\r\n"] ∧
      (∀ line ∈ lines, ascii "\r\n" <:+ line ∧ line.length < 64) ∧
      lines.flatten.length ≤ 512 ∧
      msg.sdp = lines.flatten ++ List.replicate (512 - lines.flatten.length) 0 ∧
      msg.len.toNat = 24 + lines.flatten.length ∧
      msg.data.take 24 = [sapFlags, 0] ++ littleBytes 2 0x3776 ++
        littleBytes 4 session.localAddr.toNat ++ (ascii "application/sdp" ++ [0]) ∧
      ∀ ctx announced datagram sender, 28 ≤ datagram.length →
        ptpcRecvAnnounceMsg ctx (.datagram datagram) sender = (1, announced) →
        session.ptpServerId = announced.ptpServerId →
        lines[10]? = some (ascii "a=ts-refclk:ptp=IEEE1588-2008:" ++
          (ascii "-").intercalate ((slice datagram 20 8).map twoHex) ++ ascii ":0\r\n") := by
  have length := sdp_text_length session time.toInt32 named
  have clockLine : (sdpLines session time.toInt32)[10]? = some (mediaAttr3 session.ptpServerId) :=
    rfl
  refine ⟨sapMsgOf session sapFlags time.toInt32, sdpLines session time.toInt32,
    build_sap_msg_eq session sapFlags time named, ?_, ?_, length.trans (by decide), rfl,
    built_len session sapFlags time.toInt32 named, built_header session sapFlags time.toInt32, ?_⟩
  · rw [← media_attr3_eq]
    rfl
  · intro line member
    exact ⟨sdp_lines_terminated session time.toInt32 line member,
      named_lines_short session time.toInt32 named line member⟩
  · intro ctx announced datagram sender whole accepted clock
    rw [clockLine, media_attr3_eq, clock, announced_identity whole accepted]

set_option maxRecDepth 5000 in
/-- The session of the two programs behind an Announce of the clock
1D-C1-FF-FE-51-23-78-00. -/
theorem sample_message_is_exact :
    ∃ msg lines, buildSapMsg (sampleSession 0xdeb345ef) sapFlagsAnnounce 1311738121 = some msg ∧
      lines =
        [ascii "v=0\r\n", ascii "o=- 1311738121 1311738121 IN IP4 10.0.1.104\r\n",
          ascii "s=aoip-core v0.0.0\r\n", ascii "i=2 channels: Left, Right\r\n",
          ascii "c=IN IP4 239.69.179.222/15\r\n", ascii "t=0 0\r\n",
          ascii "m=audio 5004 RTP/AVP 98\r\n", ascii "a=rtpmap:98 L24/48000/2\r\n",
          ascii "a=recvonly\r\n", ascii "a=ptime:1\r\n",
          ascii "a=ts-refclk:ptp=IEEE1588-2008:1D-C1-FF-FE-51-23-78-00:0\r\n",
          ascii "a=mediaclk:direct=0\r\n"] ∧
      msg.sdp.take 283 = lines.flatten ∧ msg.len.toNat = 307 ∧
      lines[10]? = some (ascii "a=ts-refclk:ptp=IEEE1588-2008:" ++
        (ascii "-").intercalate ((slice (sampleMsg ptpMsgidAnnounce 0) 20 8).map twoHex) ++
        ascii ":0\r\n") := by
  obtain ⟨msg, lines, built, texts, -, -, sdp, len, -, clock⟩ :=
    sap_message_is_exact (sampleSession 0xdeb345ef) sapFlagsAnnounce 1311738121 (by decide)
  have announced := clock sampleCtx (sampleCtx.receive (sampleMsg ptpMsgidAnnounce 0))
    (sampleMsg ptpMsgidAnnounce 0) 0x6801000a (by decide) (by decide) (by decide)
  have length : lines.flatten.length = 283 := by
    rw [texts]
    decide +kernel
  refine ⟨msg, lines, built, texts.trans (by decide +kernel), ?_, ?_, announced⟩
  · rw [sdp, ← length, List.take_left]
  · rw [len, length]

end AoipCore.Sap
