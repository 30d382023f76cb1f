import AoipCore.Inet

/-!
# Building SAP messages (`sap.h`, `build_sap_msg`)

Twelve lines are printed one behind the other into the 512 bytes of `sdp`. Each
`snprintf` may store at most 64 bytes, its NUL included, and the cursor moves by
the length of the whole line. `build_sap_msg_eq` gives the message for the
session names that a configuration can hold: no line is cut, and the rest of the
array is zero.
-/

namespace AoipCore.Sap

open ByteBuffer DecimalText AoipCore.Host AoipCore.Inet

set_option autoImplicit false

def sapHdrSize : Nat := 24
def maxSdpDescSize : Nat := 64
def maxSdpMsgSize : Nat := 512
def sapFlagsAnnounce : UInt8 := 0x20
def sapFlagsDeletion : UInt8 := 0x24
def intMax : Nat := 2147483647

def ascii (text : String) : Bytes := text.toList.map fun symbol => UInt8.ofNat symbol.toNat

def cString (bytes : Bytes) : Bytes := bytes.takeWhile fun byte => byte != 0

structure SapMsg where
  len : UInt16
  flags : UInt8
  authlen : UInt8
  msgIdHash : UInt16
  originSource : UInt32
  payloadType : Bytes
  sdp : Bytes
  deriving DecidableEq, Repr

def SapMsg.data (msg : SapMsg) : Bytes :=
  [msg.flags, msg.authlen] ++ littleBytes 2 msg.msgIdHash.toNat ++
    littleBytes 4 msg.originSource.toNat ++ msg.payloadType ++ msg.sdp

/-- What `sap_send` hands to `sendto`. -/
def SapMsg.datagram (msg : SapMsg) : Bytes := msg.data.take msg.len.toNat

/-- The arguments of `build_sap_msg` that describe the session. -/
structure Session where
  streamName : Bytes
  localAddr : UInt32
  rtpMcastAddr : UInt32
  audioFormat : UInt8
  audioSamplingRate : UInt32
  audioChannels : UInt8
  ptpServerId : UInt64
  deriving DecidableEq, Repr

/-! The line formats. `%d` prints its argument as an `int`. -/

def verDesc : Bytes := ascii "v=0\r\n"

def ownerId (now : Int32) (localAddr : UInt32) : Bytes :=
  ascii "o=- " ++ signedDecimal now.toInt ++ ascii " " ++ signedDecimal now.toInt ++
    ascii " IN IP4 " ++ inetNtoa localAddr ++ ascii "\r\n"

def sessionName (streamName : Bytes) : Bytes := ascii "s=" ++ cString streamName ++ ascii "\r\n"

def mediaTitle : Bytes := ascii "i=2 channels: Left, Right\r\n"

def connectInfo (rtpMcastAddr : UInt32) : Bytes :=
  ascii "c=IN IP4 " ++ inetNtoa rtpMcastAddr ++ ascii "/15\r\n"

def timeActive : Bytes := ascii "t=0 0\r\n"

def mediaName : Bytes := ascii "m=audio 5004 RTP/AVP 98\r\n"

def mediaAttr0 (audioFormat : UInt8) (audioSamplingRate : UInt32) (audioChannels : UInt8) : Bytes :=
  ascii "a=rtpmap:98 L" ++ decimal audioFormat.toNat ++ ascii "/" ++
    signedDecimal audioSamplingRate.toInt32.toInt ++ ascii "/" ++ decimal audioChannels.toNat ++
    ascii "\r\n"

def mediaAttr1 : Bytes := ascii "a=recvonly\r\n"

def mediaAttr2 : Bytes := ascii "a=ptime:1\r\n"

def mediaAttr3 (ptpServerId : UInt64) : Bytes :=
  let id := fun index => twoHex (field8 (littleBytes 8 ptpServerId.toNat) index)
  ascii "a=ts-refclk:ptp=IEEE1588-2008:" ++ id 0 ++ ascii "-" ++ id 1 ++ ascii "-" ++ id 2 ++
    ascii "-" ++ id 3 ++ ascii "-" ++ id 4 ++ ascii "-" ++ id 5 ++ ascii "-" ++ id 6 ++
    ascii "-" ++ id 7 ++ ascii ":0\r\n"

def mediaAttr4 : Bytes := ascii "a=mediaclk:direct=0\r\n"

def closingLines (session : Session) : List Bytes :=
  [timeActive, mediaName,
    mediaAttr0 session.audioFormat session.audioSamplingRate session.audioChannels,
    mediaAttr1, mediaAttr2, mediaAttr3 session.ptpServerId, mediaAttr4]

def sdpLines (session : Session) (now : Int32) : List Bytes :=
  [verDesc, ownerId now session.localAddr, sessionName session.streamName, mediaTitle,
    connectInfo session.rtpMcastAddr] ++ closingLines session

/-- The array, the cursor into it, and whether every byte stored so far went
into the array. -/
structure SdpCursor where
  sdp : Bytes
  cur : Nat
  inside : Bool
  deriving DecidableEq, Repr

/-- `snprintf(cur, MAX_SDP_DESC_SIZE, ...)` and `cur += ret`; `none` is a
negative result, for a line longer than an `int` can count. -/
def printLine (c : SdpCursor) (line : Bytes) : Option SdpCursor :=
  if line.length > intMax then none
  else
    let stored := line.take (maxSdpDescSize - 1) ++ [0]
    some {
      sdp := writeAt c.sdp c.cur stored
      cur := c.cur + line.length
      inside := c.inside && decide (c.cur + stored.length ≤ maxSdpMsgSize) }

def sdpStart : SdpCursor where
  sdp := List.replicate maxSdpMsgSize 0
  cur := 0
  inside := true

/-- `none` is the return value -1. `time` is the result of `time(NULL)`. -/
def buildSapMsg (session : Session) (sapFlags : UInt8) (time : Int64) : Option SapMsg :=
  ((sdpLines session time.toInt32).foldlM printLine sdpStart).map fun c => {
    len := UInt16.ofNat (sapHdrSize + c.cur)
    flags := sapFlags
    authlen := 0
    msgIdHash := 0x3776
    originSource := session.localAddr
    payloadType := ascii "application/sdp" ++ [0]
    sdp := c.sdp }

/-! ## Lines that fit -/

def cursorAfter (front : Bytes) : SdpCursor where
  sdp := front ++ List.replicate (maxSdpMsgSize - front.length) 0
  cur := front.length
  inside := true

theorem print_line_fits (front line : Bytes) (short : line.length < maxSdpDescSize)
    (fits : front.length + line.length < maxSdpMsgSize) :
    printLine (cursorAfter front) line = some (cursorAfter (front ++ line)) := by
  have limits : maxSdpDescSize = 64 ∧ intMax = 2147483647 := ⟨rfl, rfl⟩
  have whole : line.take (maxSdpDescSize - 1) = line := List.take_of_length_le (by omega)
  have written := write_at_append front (line ++ [0]) [] (maxSdpMsgSize - front.length) 0
    (by rw [List.length_append, List.length_singleton]; omega)
  have zeros : [(0 : UInt8)] ++ List.replicate (maxSdpMsgSize - front.length - (line.length + 1)) 0 =
      List.replicate (maxSdpMsgSize - (front ++ line).length) 0 := by
    rw [List.singleton_append, ← List.replicate_succ, List.length_append]
    congr 1
    omega
  have inside : front.length + (line.length + 1) ≤ maxSdpMsgSize := by omega
  rw [List.append_nil, List.append_nil, List.length_append, List.length_singleton,
    List.append_assoc line, zeros] at written
  rw [printLine, if_neg (by omega)]
  simp only [cursorAfter, whole, List.length_append, List.length_singleton, Bool.true_and,
    decide_eq_true inside] at written ⊢
  rw [written, List.append_assoc]

theorem print_lines_fit (front : Bytes) (lines : List Bytes)
    (short : ∀ line ∈ lines, line.length < maxSdpDescSize)
    (fits : front.length + lines.flatten.length < maxSdpMsgSize) :
    lines.foldlM printLine (cursorAfter front) = some (cursorAfter (front ++ lines.flatten)) := by
  induction lines generalizing front with
  | nil => simp
  | cons line lines ih =>
      rw [List.flatten_cons, List.length_append] at fits
      rw [List.foldlM_cons, print_line_fits front line (short line List.mem_cons_self) (by omega),
        Option.bind_eq_bind, Option.bind_some,
        ih (front ++ line) (fun other member => short other (List.mem_cons_of_mem _ member))
          (by rw [List.length_append]; omega),
        List.flatten_cons, List.append_assoc]

/-! ## Session names of at most 31 bytes -/

theorem int32_text_length (value : Int32) : (signedDecimal value.toInt).length ≤ 11 := by
  have low := value.le_toInt
  have high := value.toInt_lt
  apply signed_decimal_length_le (by decide)
  omega

theorem uint8_text_length (value : UInt8) : (decimal value.toNat).length ≤ 3 := by
  have bounded : value.toNat < 256 := value.toNat_lt
  exact decimal_length_le (by decide) (by omega)

theorem owner_id_length (now : Int32) (localAddr : UInt32) :
    (ownerId now localAddr).length ≤ 52 := by
  have number := int32_text_length now
  have address := inet_ntoa_length localAddr
  have texts : (ascii "o=- ").length = 4 ∧ (ascii " ").length = 1 ∧
      (ascii " IN IP4 ").length = 8 ∧ (ascii "\r\n").length = 2 := by decide
  simp only [ownerId, List.length_append]
  omega

theorem session_name_length (streamName : Bytes) :
    (sessionName streamName).length = (cString streamName).length + 4 := by
  have texts : (ascii "s=").length = 2 ∧ (ascii "\r\n").length = 2 := by decide
  simp only [sessionName, List.length_append]
  omega

theorem connect_info_length (rtpMcastAddr : UInt32) :
    (connectInfo rtpMcastAddr).length = (inetNtoa rtpMcastAddr).length + 14 := by
  have texts : (ascii "c=IN IP4 ").length = 9 ∧ (ascii "/15\r\n").length = 5 := by decide
  simp only [connectInfo, List.length_append]
  omega

theorem media_attr0_length (audioFormat : UInt8) (audioSamplingRate : UInt32)
    (audioChannels : UInt8) :
    (mediaAttr0 audioFormat audioSamplingRate audioChannels).length ≤ 34 := by
  have format := uint8_text_length audioFormat
  have rate := int32_text_length audioSamplingRate.toInt32
  have channels := uint8_text_length audioChannels
  have texts : (ascii "a=rtpmap:98 L").length = 13 ∧ (ascii "/").length = 1 ∧
      (ascii "\r\n").length = 2 := by decide
  simp only [mediaAttr0, List.length_append]
  omega

theorem media_attr3_length (ptpServerId : UInt64) : (mediaAttr3 ptpServerId).length = 57 := by
  have texts : (ascii "a=ts-refclk:ptp=IEEE1588-2008:").length = 30 ∧
      (ascii "-").length = 1 ∧ (ascii ":0\r\n").length = 4 := by decide
  have digits : ∀ byte, (twoHex byte).length = 2 := fun _ => rfl
  delta mediaAttr3
  simp only [List.length_append, digits]
  omega

theorem fixed_line_lengths :
    verDesc.length = 5 ∧ mediaTitle.length = 27 ∧ timeActive.length = 7 ∧ mediaName.length = 25 ∧
      mediaAttr1.length = 12 ∧ mediaAttr2.length = 11 ∧ mediaAttr4.length = 21 := by
  decide

def sdpText (session : Session) (now : Int32) : Bytes := (sdpLines session now).flatten

def LinesWithin (lines : List Bytes) (bounds : List Nat) : Prop :=
  List.Forall₂ (fun line bound => line.length ≤ bound) lines bounds

theorem lines_within_short {lines : List Bytes} {bounds : List Nat} {limit : Nat}
    (within : LinesWithin lines bounds) (small : ∀ bound ∈ bounds, bound < limit) :
    ∀ line ∈ lines, line.length < limit := by
  induction within with
  | nil =>
      intro line member
      simp at member
  | cons bounded rest ih =>
      rw [List.forall_mem_cons] at small ⊢
      exact ⟨lt_of_le_of_lt bounded small.1, ih small.2⟩

theorem lines_within_total {lines : List Bytes} {bounds : List Nat}
    (within : LinesWithin lines bounds) : lines.flatten.length ≤ bounds.sum := by
  induction within with
  | nil => simp
  | cons bounded rest ih =>
      rw [List.flatten_cons, List.length_append, List.sum_cons]
      exact Nat.add_le_add bounded ih

/-- The lengths of the twelve lines; only the session name has no bound. -/
theorem sdp_lines_within (session : Session) (now : Int32) :
    LinesWithin (sdpLines session now)
      [5, 52, (cString session.streamName).length + 4, 27, 29, 7, 25, 34, 12, 11, 57, 21] := by
  obtain ⟨version, title, active, media, attr1, attr2, attr4⟩ := fixed_line_lengths
  have owner := owner_id_length now session.localAddr
  have name := session_name_length session.streamName
  have connect : (connectInfo session.rtpMcastAddr).length ≤ 29 := by
    have address := inet_ntoa_length session.rtpMcastAddr
    rw [connect_info_length]
    omega
  have format := media_attr0_length session.audioFormat session.audioSamplingRate
    session.audioChannels
  have clock := media_attr3_length session.ptpServerId
  have opening : LinesWithin [verDesc, ownerId now session.localAddr,
      sessionName session.streamName, mediaTitle, connectInfo session.rtpMcastAddr]
      [5, 52, (cString session.streamName).length + 4, 27, 29] :=
    .cons version.le (.cons owner (.cons name.le (.cons title.le (.cons connect .nil))))
  have closing : LinesWithin (closingLines session) [7, 25, 34, 12, 11, 57, 21] :=
    .cons active.le (.cons media.le (.cons format (.cons attr1.le (.cons attr2.le
      (.cons clock.le (.cons attr4.le .nil))))))
  exact List.rel_append opening closing

theorem sdp_lines_short (session : Session) (now : Int32) (limit : Nat) (roomy : 57 < limit)
    (named : (cString session.streamName).length + 4 < limit) :
    ∀ line ∈ sdpLines session now, line.length < limit := by
  apply lines_within_short (sdp_lines_within session now)
  intro bound member
  simp only [List.mem_cons, List.not_mem_nil, or_false] at member
  omega

theorem sdp_text_length_le (session : Session) (now : Int32) :
    (sdpText session now).length ≤ 284 + (cString session.streamName).length := by
  have total := lines_within_total (sdp_lines_within session now)
  simp only [List.sum_cons, List.sum_nil] at total
  rw [sdpText]
  omega

theorem named_lines_short (session : Session) (now : Int32)
    (named : (cString session.streamName).length ≤ 31) :
    ∀ line ∈ sdpLines session now, line.length < maxSdpDescSize :=
  sdp_lines_short session now maxSdpDescSize (by decide)
    (lt_of_le_of_lt (Nat.add_le_add_right named 4) (by decide))

theorem sdp_text_length (session : Session) (now : Int32)
    (named : (cString session.streamName).length ≤ 31) : (sdpText session now).length ≤ 315 := by
  have total := sdp_text_length_le session now
  omega

def sapMsgOf (session : Session) (sapFlags : UInt8) (now : Int32) : SapMsg where
  len := UInt16.ofNat (sapHdrSize + (sdpText session now).length)
  flags := sapFlags
  authlen := 0
  msgIdHash := 0x3776
  originSource := session.localAddr
  payloadType := ascii "application/sdp" ++ [0]
  sdp := sdpText session now ++ List.replicate (maxSdpMsgSize - (sdpText session now).length) 0

theorem build_sap_msg_eq (session : Session) (sapFlags : UInt8) (time : Int64)
    (named : (cString session.streamName).length ≤ 31) :
    buildSapMsg session sapFlags time = some (sapMsgOf session sapFlags time.toInt32) := by
  have length := sdp_text_length session time.toInt32 named
  have printed := print_lines_fit [] (sdpLines session time.toInt32)
    (named_lines_short session time.toInt32 named)
    (by
      rw [List.length_nil, Nat.zero_add]
      exact lt_of_le_of_lt length (by decide))
  have start : sdpStart = cursorAfter [] := rfl
  rw [buildSapMsg, start, printed]
  rfl

theorem built_len (session : Session) (sapFlags : UInt8) (now : Int32)
    (named : (cString session.streamName).length ≤ 31) :
    (sapMsgOf session sapFlags now).len.toNat = sapHdrSize + (sdpText session now).length := by
  have length := sdp_text_length session now named
  have header : sapHdrSize = 24 := rfl
  exact UInt16.toNat_ofNat_of_lt' (show sapHdrSize + _ < 65536 by omega)

def sapHeader (localAddr : UInt32) (sapFlags : UInt8) : Bytes :=
  [sapFlags, 0] ++ littleBytes 2 0x3776 ++ littleBytes 4 localAddr.toNat ++
    (ascii "application/sdp" ++ [0])

theorem built_datagram (session : Session) (sapFlags : UInt8) (now : Int32)
    (named : (cString session.streamName).length ≤ 31) :
    (sapMsgOf session sapFlags now).datagram =
      sapHeader session.localAddr sapFlags ++ sdpText session now := by
  have data : (sapMsgOf session sapFlags now).data =
      sapHeader session.localAddr sapFlags ++ sdpText session now ++
        List.replicate (maxSdpMsgSize - (sdpText session now).length) 0 := by
    rw [List.append_assoc]
    rfl
  have length : (sapHeader session.localAddr sapFlags ++ sdpText session now).length =
      sapHdrSize + (sdpText session now).length := by
    rw [List.length_append]
    rfl
  rw [SapMsg.datagram, data, built_len session sapFlags now named, ← length, List.take_left]

/-! ## The owner line -/

def ownerText (now : Int32) (localAddr : UInt32) : Bytes :=
  ascii "o=- " ++ signedDecimal now.toInt ++ ascii " " ++ signedDecimal now.toInt ++
    ascii " IN IP4 " ++ inetNtoa localAddr

theorem owner_id_eq (now : Int32) (localAddr : UInt32) :
    ownerId now localAddr = ownerText now localAddr ++ ascii "\r\n" := rfl

/-- The bytes of the fixed texts, the sign and the dot. -/
def ownerBytes : Bytes := [111, 61, 45, 32, 73, 78, 80, 52, 46]

theorem owner_text_bytes (now : Int32) (localAddr : UInt32) :
    ∀ byte ∈ ownerText now localAddr, byte ∈ ownerBytes ∨ IsDigit byte := by
  have opening : ascii "o=- " = [111, 61, 45, 32] := by decide
  have space : ascii " " = [32] := by decide
  have family : ascii " IN IP4 " = [32, 73, 78, 32, 73, 80, 52, 32] := by decide
  have openingBytes : ∀ byte ∈ [111, 61, 45, 32], byte ∈ ownerBytes := by simp [ownerBytes]
  have familyBytes : ∀ byte ∈ [32, 73, 78, 32, 73, 80, 52, 32], byte ∈ ownerBytes := by
    simp [ownerBytes]
  have number : ∀ byte ∈ signedDecimal now.toInt, byte ∈ ownerBytes ∨ IsDigit byte := by
    intro byte member
    rcases signed_decimal_bytes _ _ member with rfl | digit
    · exact .inl (by decide)
    · exact .inr digit
  intro byte member
  simp only [ownerText, opening, space, family, List.mem_append] at member
  rcases member with ((((first | second) | third) | fourth) | fifth) | sixth
  · exact .inl (openingBytes byte first)
  · exact number byte second
  · rw [List.mem_singleton.mp third]
    exact .inl (by decide)
  · exact number byte fourth
  · exact .inl (familyBytes byte fifth)
  · rcases inet_ntoa_bytes _ _ sixth with rfl | digit
    · exact .inl (by decide)
    · exact .inr digit

/-- The line tells the time it was built. -/
theorem owner_text_injective {first second : Int32} {localAddr : UInt32}
    (same : ownerText first localAddr = ownerText second localAddr) : first = second := by
  have spaced : ∀ now : Int32, ∃ rest,
      ownerText now localAddr = ascii "o=- " ++ (signedDecimal now.toInt ++ 32 :: rest) := by
    intro now
    refine ⟨signedDecimal now.toInt ++ (ascii " IN IP4 " ++ inetNtoa localAddr), ?_⟩
    simp only [ownerText, List.append_assoc]
    rfl
  have unspaced : ∀ now : Int32, (32 : UInt8) ∉ signedDecimal now.toInt := by
    intro now member
    rcases signed_decimal_bytes _ _ member with sign | digit
    · exact absurd sign (by decide)
    · exact absurd digit.1 (by decide)
  obtain ⟨firstRest, firstText⟩ := spaced first
  obtain ⟨secondRest, secondText⟩ := spaced second
  rw [firstText, secondText, List.append_cancel_left_eq] at same
  have numbers := congrArg (List.takeWhile fun byte => byte != 32) same
  rw [take_until _ _ _ (unspaced first), take_until _ _ _ (unspaced second)] at numbers
  exact Int32.toInt_inj.mp (signed_decimal_injective numbers)

end AoipCore.Sap
