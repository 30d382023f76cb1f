import AoipCore.Sap.Marks

/-!
# What the lines in front of the connection line can do

The parser looks for `c=` at every byte, not at the start of a line. A text in
front of the connection line that holds the two characters is read in its place.
The shape of the leading lines, their types and the lengths of their texts, says
whether some choice of the texts can change the result.
-/

namespace AoipCore.Sap

open ByteBuffer PairScan AoipCore.Host AoipCore.Inet

set_option autoImplicit false

/-- A line in front of the connection line: a type, `=` and a text. -/
structure SdpLine where
  kind : UInt8
  text : Bytes
  other : kind ∉ [13, 10, 99]
  plain : 13 ∉ text ∧ 10 ∉ text

def SdpLine.bytes (line : SdpLine) : Bytes :=
  line.kind :: 61 :: (line.text ++ [13, 10])

def SdpLine.shape (line : SdpLine) : UInt8 × Nat :=
  (line.kind, line.text.length)

def linesBytes (lines : List SdpLine) : Bytes :=
  lines.flatMap SdpLine.bytes

/-- A text whose first line is `v=0`; `connection` is all of it from the first
connection line on. -/
def textOf (lines : List SdpLine) (connection : Bytes) : Bytes :=
  [118, 61, 48, 13, 10] ++ (linesBytes lines ++ connection)

def parseText (lines : List SdpLine) (connection padding : Bytes) : SearchResult :=
  searchRtpAddrFromSapMsg (textOf lines connection ++ padding)
    (UInt16.ofNat (textOf lines connection).length)

def filledBytes (byte : UInt8) (shape : List (UInt8 × Nat)) : Bytes :=
  shape.flatMap fun entry => entry.1 :: 61 :: (List.replicate entry.2 byte ++ [13, 10])

def shapeLength (shape : List (UInt8 × Nat)) : Nat :=
  (shape.map fun entry => entry.2 + 4).sum

/-! ## Where the first mark can stand -/

theorem line_bytes_unmarked {line : SdpLine} (unmarked : occurs 99 61 line.text = false) :
    occurs 99 61 line.bytes = false := by
  have kind : line.kind ≠ 99 := by
    intro same
    exact line.other (by simp [same])
  have ended : occurs 99 61 (line.text ++ [13, 10]) = false :=
    not_occurs_append unmarked (by decide) (.inr (by decide))
  rw [SdpLine.bytes, occurs_cons, occurs_cons, ended]
  simp [kind]

theorem line_bytes_end (line : SdpLine) : line.bytes.getLast? = some 10 := by
  simp [SdpLine.bytes, List.getLast?_cons]

/-- Behind lines without a mark a text starts afresh. -/
theorem lines_then_unmarked {lines : List SdpLine} {back : Bytes}
    (unmarked : ∀ line ∈ lines, occurs 99 61 line.text = false)
    (onward : occurs 99 61 back = false) : occurs 99 61 (linesBytes lines ++ back) = false := by
  induction lines with
  | nil => exact onward
  | cons line lines ih =>
      rw [List.forall_mem_cons] at unmarked
      rw [linesBytes, List.flatMap_cons, List.append_assoc]
      apply not_occurs_append (line_bytes_unmarked unmarked.1) (ih unmarked.2)
      left
      rw [line_bytes_end]
      decide

theorem first_marked_line (lines : List SdpLine) :
    (∀ line ∈ lines, occurs 99 61 line.text = false) ∨
      ∃ before line after head tail, lines = before ++ line :: after ∧
        (∀ earlier ∈ before, occurs 99 61 earlier.text = false) ∧
        line.text = head ++ 99 :: 61 :: tail ∧ occurs 99 61 (head ++ [99]) = false := by
  induction lines with
  | nil => exact .inl (by simp)
  | cons line lines ih =>
      cases marked : occurs 99 61 line.text with
      | true =>
          obtain ⟨head, tail, text, unmarked⟩ := occurs_first marked
          exact .inr ⟨[], line, lines, head, tail, rfl, by simp, text, unmarked⟩
      | false =>
          rcases ih with none | ⟨before, first, after, head, tail, rfl, earlier, text, unmarked⟩
          · exact .inl (List.forall_mem_cons.mpr ⟨marked, none⟩)
          · exact .inr ⟨line :: before, first, after, head, tail, rfl,
              List.forall_mem_cons.mpr ⟨marked, earlier⟩, text, unmarked⟩

/-! ## The result at the first mark -/

/-- A text of at least 32 bytes is decided at its first mark, or not at all if
that stands in the last 27 bytes. -/
theorem search_first_mark {text padding front rest : Bytes}
    (array : text.length + padding.length = maxSdpMsgSize) (long : 32 ≤ text.length)
    (version : [118, 61, 48] <+: text)
    (behind : (text ++ padding).drop 5 = front ++ 99 :: 61 :: rest)
    (unmarked : occurs 99 61 (front ++ [99]) = false) :
    searchRtpAddrFromSapMsg (text ++ padding) (UInt16.ofNat text.length) =
      if 33 + front.length ≤ text.length then connectionResult rest else some (-1, none) := by
  have sizes : maxSdpMsgSize = 512 ∧ minSapCMsgSize = 27 := ⟨rfl, rfl⟩
  have length := congrArg List.length behind
  rw [List.length_drop, List.length_append, List.length_append, List.length_cons] at length
  have len : (UInt16.ofNat text.length).toNat = text.length :=
    UInt16.toNat_ofNat_of_lt' (by rw [UInt16.size]; omega)
  have rest_eq : (text ++ padding).drop (4 + 1 + front.length + 2) = rest := by
    rw [Nat.add_assoc, ← List.drop_drop, behind, ← List.drop_drop, List.drop_left]
    rfl
  rw [search_after_version (version.trans (List.prefix_append text padding)), len,
    scan_first_mark _ _ _ 4 front rest behind unmarked (by omega)]
  by_cases inside : 33 + front.length ≤ text.length
  · rw [if_neg (by omega), if_pos inside]
    dsimp only
    rw [rest_eq]
  · rw [if_pos (by omega), if_neg inside]

theorem text_of_drop (lines : List SdpLine) (connection padding : Bytes) :
    (textOf lines connection ++ padding).drop 5 = linesBytes lines ++ (connection ++ padding) := by
  rw [textOf, List.append_assoc, List.append_assoc]
  rfl

theorem text_of_length (lines : List SdpLine) (connection : Bytes) :
    (textOf lines connection).length = 5 + (linesBytes lines).length + connection.length := by
  rw [textOf, List.length_append, List.length_append]
  simp only [List.length_cons, List.length_nil]
  omega

theorem lines_bytes_length (lines : List SdpLine) :
    (linesBytes lines).length = shapeLength (lines.map SdpLine.shape) := by
  induction lines with
  | nil => rfl
  | cons line lines ih =>
      rw [linesBytes, List.flatMap_cons, List.length_append, ← linesBytes, ih]
      simp [shapeLength, SdpLine.bytes, SdpLine.shape]

section Parse

variable {lines : List SdpLine} {rest padding : Bytes} (long : 25 ≤ rest.length)
  (array : (textOf lines (99 :: 61 :: rest)).length + padding.length = maxSdpMsgSize)

include long array

theorem parse_unmarked (unmarked : ∀ line ∈ lines, occurs 99 61 line.text = false) :
    parseText lines (99 :: 61 :: rest) padding =
      if 26 ≤ rest.length then connectionResult (rest ++ padding) else some (-1, none) := by
  have length := text_of_length lines (99 :: 61 :: rest)
  rw [List.length_cons, List.length_cons] at length
  rw [parseText, search_first_mark array (by omega) ⟨_, rfl⟩ (text_of_drop lines _ padding)
    (lines_then_unmarked unmarked (by decide))]
  apply if_congr _ rfl rfl
  omega

theorem parse_marked {before after : List SdpLine} {line : SdpLine} {head tail : Bytes}
    (split : lines = before ++ line :: after)
    (earlier : ∀ line ∈ before, occurs 99 61 line.text = false)
    (text : line.text = head ++ 99 :: 61 :: tail)
    (unmarked : occurs 99 61 (head ++ [99]) = false) :
    parseText lines (99 :: 61 :: rest) padding =
      connectionResult (tail ++ 13 :: 10 :: (linesBytes after ++ (99 :: 61 :: rest ++ padding))) := by
  subst split
  have layout : linesBytes (before ++ line :: after) =
      linesBytes before ++ line.kind :: 61 :: head ++
        99 :: 61 :: (tail ++ 13 :: 10 :: linesBytes after) := by
    simp [linesBytes, SdpLine.bytes, text]
  have behind : (textOf (before ++ line :: after) (99 :: 61 :: rest) ++ padding).drop 5 =
      (linesBytes before ++ line.kind :: 61 :: head) ++
        99 :: 61 :: (tail ++ 13 :: 10 :: (linesBytes after ++ (99 :: 61 :: rest ++ padding))) := by
    rw [text_of_drop, layout]
    simp
  have kind : line.kind ≠ 99 := by
    intro same
    exact line.other (by simp [same])
  have fresh : occurs 99 61 (linesBytes before ++ line.kind :: 61 :: head ++ [99]) = false := by
    rw [List.append_assoc]
    apply lines_then_unmarked earlier
    rw [List.cons_append, List.cons_append, occurs_cons, occurs_cons, unmarked]
    simp [kind]
  have length := text_of_length (before ++ line :: after) (99 :: 61 :: rest)
  rw [layout] at length
  simp only [List.length_append, List.length_cons] at length
  rw [parseText, search_first_mark array (by omega) ⟨_, rfl⟩ behind fresh, if_pos]
  simp only [List.length_append, List.length_cons]
  omega

end Parse

/-! ## What a leading text can announce -/

theorem announces_append {rest : Bytes} (long : 22 ≤ rest.length) (more : Bytes) :
    Announces (rest ++ more) ↔ Announces rest := by
  have limit : maxIpv4AsciiSize = 15 := rfl
  have window : ((rest ++ more).drop 7).take maxIpv4AsciiSize =
      (rest.drop 7).take maxIpv4AsciiSize := by
    rw [List.drop_append_of_le_length (by omega), List.take_append_of_le_length]
    rw [List.length_drop]
    omega
  have family : FamilyMatches (rest ++ more) ↔ FamilyMatches rest := by
    have early : ∀ entry ∈ familyBytes, entry.1 ≤ 5 := by decide
    apply forall₂_congr
    intro entry member
    have position := early entry member
    rw [List.getElem?_append_left (by omega)]
  rw [Announces, Announces, window, family]

theorem connection_result_long {rest : Bytes} (long : 22 ≤ rest.length) :
    connectionResult rest = some (-1, none) ↔ ¬Announces rest := by
  constructor
  · intro refused announced
    obtain ⟨code, addr, result, accepted⟩ := connection_result_announced announced
    rw [result] at refused
    exact accepted (Prod.mk.inj (Option.some.inj refused)).1
  · exact connection_result_refused (.inr (.inr long))

theorem connection_line_refuses_iff (rest padding : Bytes) :
    (if 26 ≤ rest.length then connectionResult (rest ++ padding) else some (-1, none)) =
        some (-1, none) ↔ ¬(26 ≤ rest.length ∧ Announces rest) := by
  split_ifs with enough
  · rw [connection_result_long (by rw [List.length_append]; omega), announces_append (by omega)]
    simp [enough]
  · simp [enough]

/-- A text that ends behind the mark before `IN IP4` is complete announces
nothing; with one or no byte more, the slash has to come from what follows. -/
theorem announcing_text {tail following : Bytes}
    (announced : Announces (tail ++ 13 :: 10 :: following)) :
    8 ≤ tail.length ∨ 6 ≤ tail.length ∧ 47 ∈ following.take 14 := by
  obtain ⟨family, slash⟩ := announced
  simp only [FamilyMatches, familyBytes, List.forall_mem_cons] at family
  -- the carriage return or the line feed would be one of the five bytes
  obtain - | ⟨a, - | ⟨b, - | ⟨c, - | ⟨d, - | ⟨e, - | ⟨f, tail⟩⟩⟩⟩⟩⟩ := tail
  · simp at family
  · simp at family
  · simp at family
  · simp at family
  · simp at family
  · simp at family
  · have window : (a :: b :: c :: d :: e :: f :: tail ++ 13 :: 10 :: following).drop 7 =
        (tail ++ 13 :: 10 :: following).drop 1 := rfl
    have limit : maxIpv4AsciiSize = 14 + 1 := rfl
    rw [window, limit] at slash
    obtain - | ⟨g, - | ⟨h, tail⟩⟩ := tail
    · rw [List.nil_append, List.drop_one, List.tail_cons, List.take_succ_cons, List.mem_cons] at slash
      exact .inr ⟨by simp, slash.resolve_left (by decide)⟩
    · rw [List.singleton_append, List.drop_one, List.tail_cons, List.take_succ_cons,
        List.take_succ_cons, List.mem_cons, List.mem_cons] at slash
      have near := (slash.resolve_left (by decide)).resolve_left (by decide)
      exact .inr ⟨by simp, List.take_subset_take_left following (by decide) near⟩
    · left
      simp

theorem lure_announces (following : Bytes) :
    Announces ([73, 78, 32, 73, 80, 52, 32, 47] ++ 13 :: 10 :: following) ∧
      (47 ∈ following.take 14 → Announces ([73, 78, 32, 73, 80, 52] ++ 13 :: 10 :: following)) := by
  have limit : maxIpv4AsciiSize = 14 + 1 := rfl
  refine ⟨⟨by simp [FamilyMatches, familyBytes], ?_⟩, fun slash =>
    ⟨by simp [FamilyMatches, familyBytes], ?_⟩⟩
  · exact List.mem_cons_self
  · exact List.mem_cons_of_mem 10 slash

theorem blank_announces_nothing (spaces : Nat) (following : Bytes) :
    ¬Announces (List.replicate spaces 32 ++ 13 :: 10 :: following) := by
  intro announced
  have first := announced.1 (0, 73) (by decide)
  cases spaces with
  | zero => simp at first
  | succ spaces => simp [List.replicate_succ] at first

/-! ## Slashes as far as the shape allows them -/

theorem slash_in_line (line : SdpLine) (count : Nat) (slash : 47 ∈ line.bytes.take count) :
    47 ∈ (line.kind :: 61 :: (List.replicate line.text.length 47 ++ [13, 10])).take count := by
  rw [SdpLine.bytes] at slash
  obtain - | - | count := count
  · exact slash
  · exact slash
  · simp only [List.take_succ_cons, List.mem_cons, List.take_append, List.mem_append,
      List.length_replicate] at slash ⊢
    rcases slash with kind | equals | text | ending
    · exact .inl kind
    · exact .inr (.inl equals)
    · right
      right
      left
      have present := List.length_pos_of_mem text
      rw [List.length_take] at present
      rw [List.take_replicate, List.mem_replicate]
      exact ⟨by omega, rfl⟩
    · exact .inr (.inr (.inr ending))

/-- A slash at some place of the lines is there too if all texts are slashes. -/
theorem slash_in_lines (lines : List SdpLine) (back : Bytes) (count : Nat)
    (slash : 47 ∈ (linesBytes lines ++ back).take count) :
    47 ∈ (filledBytes 47 (lines.map SdpLine.shape) ++ back).take count := by
  induction lines generalizing count with
  | nil => exact slash
  | cons line lines ih =>
      rw [linesBytes, List.flatMap_cons, List.append_assoc, List.take_append,
        List.mem_append] at slash
      rw [List.map_cons, filledBytes, List.flatMap_cons, List.append_assoc, List.take_append,
        List.mem_append]
      rcases slash with here | later
      · exact .inl (slash_in_line line count here)
      · right
        have length : (line.shape.1 :: 61 :: (List.replicate line.shape.2 47 ++ [13, 10])).length =
            line.bytes.length := by
          simp [SdpLine.bytes, SdpLine.shape]
        rw [length]
        exact ih _ later

/-! ## The exact condition -/

/-- Whatever the leading lines of this shape say, replacing the text of one of
them keeps the result. -/
def OnlyConnectionLineMatters (shape : List (UInt8 × Nat)) (connection padding : Bytes) : Prop :=
  ∀ (before after : List SdpLine) (line other : SdpLine),
    (before ++ line :: after).map SdpLine.shape = shape → other.shape = line.shape →
      parseText (before ++ other :: after) connection padding =
        parseText (before ++ line :: after) connection padding

/-- A leading text has room for `c=IN IP4 /`, or for `c=IN IP4` with a slash
that can stand in the 14 bytes behind its line. -/
def CanAnnounce (shape : List (UInt8 × Nat)) (connection : Bytes) : Prop :=
  ∃ before kind room after, shape = before ++ (kind, room) :: after ∧
    (10 ≤ room ∨ 8 ≤ room ∧ 47 ∈ (filledBytes 47 after ++ connection).take 14)

theorem lines_of_shape (byte : UInt8) (ordinary : byte ∉ [13, 10, 99])
    {shape : List (UInt8 × Nat)} (kinds : ∀ entry ∈ shape, entry.1 ∉ [13, 10, 99]) :
    ∃ lines : List SdpLine, lines.map SdpLine.shape = shape ∧
      linesBytes lines = filledBytes byte shape ∧
      ∀ line ∈ lines, occurs 99 61 line.text = false := by
  simp only [List.mem_cons, List.not_mem_nil, or_false, not_or] at ordinary
  induction shape with
  | nil => exact ⟨[], rfl, rfl, by simp⟩
  | cons entry shape ih =>
      rw [List.forall_mem_cons] at kinds
      obtain ⟨lines, shaped, bytes, unmarked⟩ := ih kinds.2
      have absent : ∀ symbol, byte ≠ symbol → symbol ∉ List.replicate entry.2 byte :=
        fun symbol different member => different (List.eq_of_mem_replicate member).symm
      refine ⟨⟨entry.1, List.replicate entry.2 byte, kinds.1, absent 13 ordinary.1,
        absent 10 ordinary.2.1⟩ :: lines, ?_, ?_, ?_⟩
      · simp [SdpLine.shape, shaped]
      · simp only [linesBytes, filledBytes, List.flatMap_cons, SdpLine.bytes] at bytes ⊢
        rw [bytes]
      · rw [List.forall_mem_cons]
        exact ⟨not_occurs_of_not_mem (absent 99 ordinary.2.2), unmarked⟩

section Shape

variable {shape : List (UInt8 × Nat)} {rest padding : Bytes}
  (long : 25 ≤ rest.length)
  (array : 5 + shapeLength shape + (99 :: 61 :: rest).length + padding.length = maxSdpMsgSize)

include array in
theorem shaped_array {lines : List SdpLine} (shaped : lines.map SdpLine.shape = shape) :
    (textOf lines (99 :: 61 :: rest)).length + padding.length = maxSdpMsgSize := by
  rw [text_of_length, lines_bytes_length, shaped, array]

include long array

theorem parse_no_room {lines : List SdpLine} (shaped : lines.map SdpLine.shape = shape)
    (narrow : ∀ entry ∈ shape, entry.2 ≤ 1) :
    parseText lines (99 :: 61 :: rest) padding =
      if 26 ≤ rest.length then connectionResult (rest ++ padding) else some (-1, none) := by
  apply parse_unmarked long (shaped_array array shaped)
  intro line member
  have short : line.text.length ≤ 1 := narrow line.shape (shaped ▸ List.mem_map_of_mem member)
  match text : line.text with
  | [] => rfl
  | [byte] => rfl
  | first :: second :: more =>
      rw [text] at short
      simp at short

theorem parse_refused {lines : List SdpLine} (shaped : lines.map SdpLine.shape = shape)
    (silent : ¬(26 ≤ rest.length ∧ Announces rest))
    (narrow : ¬CanAnnounce shape (99 :: 61 :: rest)) :
    parseText lines (99 :: 61 :: rest) padding = some (-1, none) := by
  have whole := shaped_array array shaped
  rcases first_marked_line lines with unmarked | ⟨before, line, after, head, tail, split, earlier,
    text, unmarked⟩
  · rw [parse_unmarked long whole unmarked, connection_line_refuses_iff]
    exact silent
  · rw [parse_marked long whole split earlier text unmarked, connection_result_long]
    · intro announced
      apply narrow
      have length := congrArg List.length text
      rw [List.length_append, List.length_cons, List.length_cons] at length
      refine ⟨before.map SdpLine.shape, line.kind, line.text.length, after.map SdpLine.shape, ?_, ?_⟩
      · rw [← shaped, split, List.map_append, List.map_cons]
        rfl
      · rcases announcing_text announced with roomy | ⟨enough, slash⟩
        · exact .inl (by omega)
        · refine .inr ⟨by omega, ?_⟩
          apply slash_in_lines
          rw [← List.append_assoc, List.take_append_of_le_length] at slash
          · exact slash
          · rw [List.length_append, List.length_cons, List.length_cons]
            omega
    · simp only [List.length_append, List.length_cons]
      omega

theorem results_differ {before after : List (UInt8 × Nat)} {kind : UInt8} {spaces : Nat}
    {tail : Bytes} (byte : UInt8) (ordinary : byte ∉ [13, 10, 99])
    (kinds : ∀ entry ∈ shape, entry.1 ∉ [13, 10, 99])
    (split : shape = before ++ (kind, spaces + 2 + tail.length) :: after)
    (plain : 13 ∉ tail ∧ 10 ∉ tail)
    (differ : Announces (tail ++ 13 :: 10 ::
        (filledBytes byte after ++ (99 :: 61 :: rest ++ padding))) ↔
      ¬(26 ≤ rest.length ∧ Announces rest)) :
    ¬OnlyConnectionLineMatters shape (99 :: 61 :: rest) padding := by
  have absent : ∀ count symbol, 32 ≠ symbol → symbol ∉ List.replicate count (32 : UInt8) :=
    fun count symbol different member => different (List.eq_of_mem_replicate member).symm
  have parts := kinds
  rw [split, List.forall_mem_append, List.forall_mem_cons] at parts
  obtain ⟨front, frontShape, -, frontUnmarked⟩ := lines_of_shape 32 (by decide) parts.1
  obtain ⟨back, backShape, backBytes, backUnmarked⟩ := lines_of_shape byte ordinary parts.2.2
  -- the same line once with a text of blanks and once with the mark at its end
  let blank : SdpLine :=
    ⟨kind, List.replicate (spaces + 2 + tail.length) 32, parts.2.1, absent _ 13 (by decide),
      absent _ 10 (by decide)⟩
  let lure : SdpLine :=
    ⟨kind, List.replicate spaces 32 ++ 99 :: 61 :: tail, parts.2.1, by
      simp [plain.1, List.mem_replicate], by simp [plain.2, List.mem_replicate]⟩
  have lureShape : lure.shape = blank.shape := by
    simp [lure, blank, SdpLine.shape]
    omega
  have blankShaped : (front ++ blank :: back).map SdpLine.shape = shape := by
    rw [List.map_append, List.map_cons, frontShape, backShape, split]
    simp [blank, SdpLine.shape]
  have lureShaped : (front ++ lure :: back).map SdpLine.shape = shape := by
    rw [← blankShaped]
    simp [lureShape]
  have blankUnmarked : ∀ line ∈ front ++ blank :: back, occurs 99 61 line.text = false := by
    rw [List.forall_mem_append, List.forall_mem_cons]
    exact ⟨frontUnmarked, not_occurs_of_not_mem (absent _ 99 (by decide)), backUnmarked⟩
  have lureUnmarked : occurs 99 61 (List.replicate spaces (32 : UInt8) ++ [99]) = false :=
    not_occurs_append (not_occurs_of_not_mem (absent _ 99 (by decide))) (by decide)
      (.inr (by decide))
  intro same
  have results := same front back blank lure blankShaped lureShape
  rw [parse_unmarked long (shaped_array array blankShaped) blankUnmarked,
    parse_marked long (shaped_array array lureShaped) rfl frontUnmarked rfl lureUnmarked,
    backBytes] at results
  have refuses := connection_line_refuses_iff rest padding
  rw [← results, connection_result_long, ← differ] at refuses
  · exact iff_not_self refuses.symm
  · simp only [List.length_append, List.length_cons]
    omega

/-- The leading texts have no say exactly if none has room for `c=`, or if the
connection line announces nothing and no leading text can. Those without `c=` never
have one. -/
theorem only_connection_line_matters_iff (kinds : ∀ entry ∈ shape, entry.1 ∉ [13, 10, 99]) :
    (OnlyConnectionLineMatters shape (99 :: 61 :: rest) padding ↔
      (∀ entry ∈ shape, entry.2 ≤ 1) ∨
      ¬(26 ≤ rest.length ∧ Announces rest) ∧ ¬CanAnnounce shape (99 :: 61 :: rest)) ∧
    ∀ lines others : List SdpLine, lines.map SdpLine.shape = shape →
      others.map SdpLine.shape = shape →
      (∀ line ∈ lines, occurs 99 61 line.text = false) →
      (∀ line ∈ others, occurs 99 61 line.text = false) →
      parseText lines (99 :: 61 :: rest) padding = parseText others (99 :: 61 :: rest) padding := by
  refine ⟨⟨?_, ?_⟩, ?_⟩
  · intro same
    by_contra fails
    rw [not_or, not_and_or, not_not, not_not] at fails
    by_cases announced : 26 ≤ rest.length ∧ Announces rest
    · -- any `c=` in a leading text makes the parse fail
      obtain ⟨roomy, -⟩ := fails
      push Not at roomy
      obtain ⟨⟨kind, room⟩, member, wide⟩ := roomy
      obtain ⟨before, after, split⟩ := List.append_of_mem member
      have size : room = 0 + 2 + (List.replicate (room - 2) (32 : UInt8)).length := by
        rw [List.length_replicate]
        dsimp only at wide
        omega
      rw [size] at split
      refine results_differ long array 32 (by decide) kinds split ?_ ?_ same
      · simp [List.mem_replicate]
      · exact iff_of_false (blank_announces_nothing _ _) (not_not.mpr announced)
    · -- a leading text that is long enough supplies an address of its own
      obtain ⟨before, kind, room, after, split, place⟩ := fails.2.resolve_left announced
      have lured := lure_announces (filledBytes 47 after ++ (99 :: 61 :: rest ++ padding))
      rcases place with roomy | ⟨roomy, slash⟩
      · have size : room = room - 10 + 2 + [73, 78, 32, 73, 80, 52, 32, (47 : UInt8)].length := by
          simp only [List.length_cons, List.length_nil]
          omega
        rw [size] at split
        exact results_differ long array 47 (by decide) kinds split (by decide)
          (iff_of_true lured.1 announced) same
      · have size : room = room - 8 + 2 + [73, 78, 32, 73, 80, (52 : UInt8)].length := by
          simp only [List.length_cons, List.length_nil]
          omega
        have near : 47 ∈ (filledBytes 47 after ++ (99 :: 61 :: rest ++ padding)).take 14 := by
          rw [← List.append_assoc, List.take_append_of_le_length]
          · exact slash
          · rw [List.length_append, List.length_cons, List.length_cons]
            omega
        rw [size] at split
        exact results_differ long array 47 (by decide) kinds split (by decide)
          (iff_of_true (lured.2 near) announced) same
  · rintro condition before after line other shaped similar
    have otherShaped : (before ++ other :: after).map SdpLine.shape = shape := by
      rw [← shaped]
      simp [similar]
    rcases condition with narrow | ⟨silent, narrow⟩
    · rw [parse_no_room long array shaped narrow, parse_no_room long array otherShaped narrow]
    · rw [parse_refused long array shaped silent narrow,
        parse_refused long array otherShaped silent narrow]
  · intro lines others shaped otherShaped unmarked otherUnmarked
    rw [parse_unmarked long (shaped_array array shaped) unmarked,
      parse_unmarked long (shaped_array array otherShaped) otherUnmarked]

end Shape

def nameLine (text : Bytes) (plain : 13 ∉ text ∧ 10 ∉ text) : SdpLine where
  kind := 115
  text := text
  other := by decide
  plain := plain

def sampleRest : Bytes := ascii "IN IP4 239.69.1.1/15\r\nt=0 0\r\n"

def samplePadding : Bytes := List.replicate 463 0

/-- A name of one byte has no say, and neither has one without `c=`. -/
theorem sample_only_connection_line_matters :
    OnlyConnectionLineMatters [(115, 1)] (99 :: 61 :: sampleRest) (List.replicate 471 0) ∧
      parseText [nameLine (ascii "aoip-core") (by decide)] (99 :: 61 :: sampleRest) samplePadding =
        parseText [nameLine (ascii "aoip c d=") (by decide)] (99 :: 61 :: sampleRest)
          samplePadding :=
  ⟨(only_connection_line_matters_iff (by decide) (by rw [List.length_replicate]; decide)
      (by decide)).1.mpr (.inl (by decide)),
    (only_connection_line_matters_iff (by decide)
      (by rw [samplePadding, List.length_replicate]; decide) (by decide)).2 _ _ rfl (by decide)
      (by decide) (by decide)⟩

/-- The stream name `a c=b d e` hides the connection line. -/
theorem sample_name_hides_connection_line :
    parseText [nameLine (ascii "aoip-core") (by decide)] (99 :: 61 :: sampleRest) samplePadding =
      some (1, some 0x010145ef) ∧
    parseText [nameLine (ascii "a c=b d e") (by decide)] (99 :: 61 :: sampleRest) samplePadding =
      some (-1, none) ∧
    ¬OnlyConnectionLineMatters [(115, 9)] (99 :: 61 :: sampleRest) samplePadding := by
  have found : parseText [nameLine (ascii "aoip-core") (by decide)] (99 :: 61 :: sampleRest)
      samplePadding = some (1, some 0x010145ef) := by decide +kernel
  have hidden : parseText [nameLine (ascii "a c=b d e") (by decide)] (99 :: 61 :: sampleRest)
      samplePadding = some (-1, none) := by decide +kernel
  refine ⟨found, hidden, ?_⟩
  intro same
  have results := same [] [] (nameLine (ascii "aoip-core") (by decide))
    (nameLine (ascii "a c=b d e") (by decide)) (by decide) (by decide)
  rw [List.nil_append, List.nil_append, found, hidden] at results
  exact absurd results (by decide)

end AoipCore.Sap
