import AoipCore.Sap.Marks
import Mathlib.Data.List.TakeWhile

/-!
# Parsing what `build_sap_msg` has built

The first `c=` of a built message is its connection line, unless the session
name holds one, so the parser finds the address that was announced. An address
whose text has 15 characters does not fit the array it is copied to.
-/

namespace AoipCore.Sap

open ByteBuffer PairScan DecimalText AoipCore.Host AoipCore.Inet

set_option autoImplicit false

def leadingText (session : Session) (now : Int32) : Bytes :=
  ownerId now session.localAddr ++ sessionName session.streamName ++ mediaTitle

theorem sdp_text_split (session : Session) (now : Int32) :
    sdpText session now = verDesc ++ (leadingText session now ++
      (connectInfo session.rtpMcastAddr ++ (closingLines session).flatten)) := by
  simp [sdpText, sdpLines, leadingText]

theorem owner_id_unmarked (now : Int32) (localAddr : UInt32) :
    occurs 99 61 (ownerId now localAddr) = false := by
  apply not_occurs_of_not_mem
  rw [owner_id_eq, List.mem_append]
  rintro (text | lineEnd)
  · rcases owner_text_bytes now localAddr 99 text with fixed | digit
    · exact absurd fixed (by decide)
    · exact absurd digit.2 (by decide)
  · exact absurd lineEnd (by decide)

theorem session_name_unmarked (streamName : Bytes)
    (unmarked : ¬[99, 61] <:+: cString streamName) :
    occurs 99 61 (sessionName streamName) = false := by
  have name : occurs 99 61 (cString streamName) = false := by
    rwa [← Bool.not_eq_true, occurs_iff_infix]
  unfold sessionName
  apply not_occurs_append
  · exact not_occurs_append (by decide) name (.inl (by decide))
  · decide
  · exact .inr (by decide)

theorem line_end (line : Bytes) : (line ++ ascii "\r\n").getLast? = some 10 := by
  have ending : ascii "\r\n" = [13, 10] := by decide
  rw [ending, List.getLast?_append_of_ne_nil _ (by simp)]
  rfl

theorem leading_text_unmarked (session : Session) (now : Int32)
    (unmarked : ¬[99, 61] <:+: cString session.streamName) :
    occurs 99 61 (leadingText session now ++ [99]) = false := by
  unfold leadingText
  apply not_occurs_append
  · apply not_occurs_append
    · apply not_occurs_append (owner_id_unmarked now session.localAddr)
        (session_name_unmarked session.streamName unmarked)
      left
      rw [ownerId, line_end]
      decide
    · decide
    · left
      rw [List.getLast?_append_of_ne_nil _ (by simp [sessionName, ascii])]
      rw [sessionName, line_end]
      decide
  · decide
  · exact .inr (by decide)

theorem connect_info_eq (rtpMcastAddr : UInt32) (rest : Bytes) :
    connectInfo rtpMcastAddr ++ rest =
      99 :: 61 :: 73 :: 78 :: 32 :: 73 :: 80 :: 52 :: 32 ::
        (inetNtoa rtpMcastAddr ++ 47 :: 49 :: 53 :: 13 :: 10 :: rest) := by
  have opening : ascii "c=IN IP4 " = [99, 61, 73, 78, 32, 73, 80, 52, 32] := by decide
  have closing : ascii "/15\r\n" = [47, 49, 53, 13, 10] := by decide
  rw [connectInfo, opening, closing]
  simp

theorem inet_ntoa_plain (addr : UInt32) :
    (47 : UInt8) ∉ inetNtoa addr ∧ cString (inetNtoa addr) = inetNtoa addr := by
  have bytes := inet_ntoa_bytes addr
  constructor
  · intro member
    rcases bytes 47 member with dot | digit
    · exact absurd dot (by decide)
    · exact absurd digit.1 (by decide)
  · apply List.takeWhile_eq_self_iff.mpr
    intro byte member
    rcases bytes byte member with dot | digit
    · rw [dot]
      decide
    · simp only [bne_iff_ne, ne_eq]
      rintro rfl
      exact absurd digit.1 (by decide)

/-- The array of a built message, from the owner line on and from the
connection line on. -/
theorem built_sdp_layout (session : Session) (sapFlags : UInt8) (now : Int32) :
    ∃ rest, (sapMsgOf session sapFlags now).sdp =
        verDesc ++ (leadingText session now ++ (connectInfo session.rtpMcastAddr ++ rest)) ∧
      (sapMsgOf session sapFlags now).sdp.drop 5 =
        leadingText session now ++ (connectInfo session.rtpMcastAddr ++ rest) ∧
      (sapMsgOf session sapFlags now).sdp.drop (5 + (leadingText session now).length) =
        connectInfo session.rtpMcastAddr ++ rest := by
  have version : verDesc.length = 5 := by decide
  refine ⟨(closingLines session).flatten ++
    List.replicate (maxSdpMsgSize - (sdpText session now).length) 0, ?_, ?_, ?_⟩
  · simp only [sapMsgOf, sdp_text_split, List.append_assoc]
  · simp only [sapMsgOf, sdp_text_split, List.append_assoc]
    rw [← version, List.drop_left]
  · simp only [sapMsgOf, sdp_text_split, List.append_assoc]
    rw [← List.drop_drop, ← version, List.drop_left, List.drop_left]

theorem scan_built (session : Session) (sapFlags : UInt8) (now : Int32)
    (named : (cString session.streamName).length ≤ 31)
    (unmarked : ¬[99, 61] <:+: cString session.streamName) :
    scanConnect (sapMsgOf session sapFlags now).sdp
        (((sapMsgOf session sapFlags now).len.toNat : Int) - 1 - minSapCMsgSize) maxSdpMsgSize 4 =
      .found (5 + (leadingText session now).length) := by
  obtain ⟨rest, -, behind, -⟩ := built_sdp_layout session sapFlags now
  rw [connect_info_eq] at behind
  have length := sdp_text_length session now named
  have split := congrArg List.length (sdp_text_split session now)
  have connect := connect_info_length session.rtpMcastAddr
  have version : verDesc.length = 5 := by decide
  have sizes : sapHdrSize = 24 ∧ minSapCMsgSize = 27 ∧ maxSdpMsgSize = 512 := ⟨rfl, rfl, rfl⟩
  simp only [List.length_append] at split
  rw [scan_first_mark _ _ _ 4 _ _ behind (leading_text_unmarked session now unmarked) (by omega),
    if_neg]
  rw [built_len session sapFlags now named]
  push_cast
  omega

/-- What the parser makes of a message whose name hides no `c=`: the address,
or a failure if its text has 15 characters. -/
theorem search_built (session : Session) (sapFlags : UInt8) (now : Int32)
    (named : (cString session.streamName).length ≤ 31)
    (unmarked : ¬[99, 61] <:+: cString session.streamName) :
    searchRtpAddrFromSapMsg (sapMsgOf session sapFlags now).sdp (sapMsgOf session sapFlags now).len =
      if (inetNtoa session.rtpMcastAddr).length < maxIpv4AsciiSize then
        some (1, some session.rtpMcastAddr)
      else some (-1, none) := by
  obtain ⟨rest, whole, -, connect⟩ := built_sdp_layout session sapFlags now
  obtain ⟨plain, terminated⟩ := inet_ntoa_plain session.rtpMcastAddr
  have scanned := scan_built session sapFlags now named unmarked
  generalize (sapMsgOf session sapFlags now).sdp = sdp at whole connect scanned ⊢
  have version : [118, 61, 48] <+: sdp := by
    have text : verDesc = [118, 61, 48] ++ [13, 10] := by decide
    rw [whole, text, List.append_assoc]
    exact List.prefix_append _ _
  have behind : sdp.drop (5 + (leadingText session now).length + 2) =
      73 :: 78 :: 32 :: 73 :: 80 :: 52 :: 32 ::
        (inetNtoa session.rtpMcastAddr ++ 47 :: 49 :: 53 :: 13 :: 10 :: rest) := by
    rw [← List.drop_drop, connect, connect_info_eq]
    rfl
  have family := (family_true_iff (sdp.drop (5 + (leadingText session now).length + 2))).mpr
    (by rw [behind]; simp [FamilyMatches, familyBytes])
  rw [search_after_version version, scanned]
  dsimp only
  rw [connectionResult, family, behind]
  dsimp only
  split_ifs with short
  · rw [copy_address_fits _ _ 7 [] _ _ rfl plain short, List.nil_append]
    simp only [terminated, inet_pton_ntoa]
  · rw [copy_address_too_long _ _ 7 [] _ _ rfl plain (by omega)]

/-- The parser finds the address that was passed to the builder exactly when
its dotted-decimal text has at most 14 characters. -/
theorem search_inverts_build_iff (session : Session) (sapFlags : UInt8) (time : Int64)
    (named : (cString session.streamName).length ≤ 31)
    (unmarked : ¬[99, 61] <:+: cString session.streamName) :
    ∃ msg, buildSapMsg session sapFlags time = some msg ∧
      (searchRtpAddrFromSapMsg msg.sdp msg.len = some (1, some session.rtpMcastAddr) ↔
        (inetNtoa session.rtpMcastAddr).length ≤ 14) := by
  refine ⟨sapMsgOf session sapFlags time.toInt32, build_sap_msg_eq session sapFlags time named, ?_⟩
  rw [search_built session sapFlags time.toInt32 named unmarked]
  have limit : maxIpv4AsciiSize = 15 := rfl
  split_ifs with short
  · exact ⟨fun _ => by omega, fun _ => rfl⟩
  · constructor
    · intro found
      exact absurd found (by simp)
    · intro shorter
      omega

/-- The session of the two programs, on the given stream address. -/
def sampleSession (rtpMcastAddr : UInt32) : Session where
  streamName := ascii "aoip-core v0.0.0"
  localAddr := 0x6801000a
  rtpMcastAddr := rtpMcastAddr
  audioFormat := 24
  audioSamplingRate := 48000
  audioChannels := 2
  ptpServerId := 0x782351feffc11d

/-- 239.69.179.222. -/
theorem sample_search_inverts_build :
    ∃ msg, buildSapMsg (sampleSession 0xdeb345ef) sapFlagsAnnounce 1311738121 = some msg ∧
      (searchRtpAddrFromSapMsg msg.sdp msg.len = some (1, some 0xdeb345ef) ↔
        (inetNtoa 0xdeb345ef).length ≤ 14) :=
  search_inverts_build_iff (sampleSession 0xdeb345ef) sapFlagsAnnounce 1311738121 (by decide)
    (by decide)

/-- 239.255.255.255 is announced and then not found. -/
theorem sample_search_rejects_built :
    ((sampleSession 0xffffffef).streamName.length ≤ 31 ∧
      (∀ byte ∈ [0, 10, 13], byte ∉ (sampleSession 0xffffffef).streamName) ∧
      ¬[99, 61] <:+: (sampleSession 0xffffffef).streamName) ∧
    (buildSapMsg (sampleSession 0xffffffef) sapFlagsAnnounce 1311738121).map
      (fun msg => searchRtpAddrFromSapMsg msg.sdp msg.len) = some (some (-1, none)) :=
  ⟨by decide +kernel, by decide +kernel⟩

end AoipCore.Sap
