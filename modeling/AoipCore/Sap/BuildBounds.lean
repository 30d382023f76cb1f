import AoipCore.Sap.Build

/-!
# Where the builder stores

Every `snprintf` of `build_sap_msg` is given a window of 64 bytes at the cursor,
wherever the cursor stands, and the cursor moves by what the call would have
written. `sdpStores` lists the windows in which bytes are stored for any list of
lines; `print_lines_inside` ties it to the flag that `printLine` carries.
-/

namespace AoipCore.Sap

open ByteBuffer AoipCore.Host AoipCore.Inet

set_option autoImplicit false

structure Store where
  offset : Nat
  count : Nat
  deriving DecidableEq, Repr

def Store.Inside (store : Store) : Prop := store.offset + store.count ≤ maxSdpMsgSize

def lineStore (cur : Nat) (line : Bytes) : Store where
  offset := cur
  count := min line.length (maxSdpDescSize - 1) + 1

/-- A call that cannot count its line may have stored as much before it fails;
no call follows it. -/
def sdpStores (cur : Nat) : List Bytes → List Store
  | [] => []
  | line :: lines =>
      lineStore cur line ::
        if line.length > intMax then [] else sdpStores (cur + line.length) lines

/-- Every line, with its NUL, fits the window and the array. -/
def LinesFit (cur : Nat) : List Bytes → Prop
  | [] => True
  | line :: lines =>
      line.length < maxSdpDescSize ∧ cur + line.length < maxSdpMsgSize ∧
        LinesFit (cur + line.length) lines

theorem print_line_some {c next : SdpCursor} {line : Bytes}
    (printed : printLine c line = some next) :
    line.length ≤ intMax ∧ next.cur = c.cur + line.length ∧
      (next.inside = true ↔ c.inside = true ∧ (lineStore c.cur line).Inside) := by
  unfold printLine at printed
  split_ifs at printed with long
  obtain rfl := Option.some.inj printed
  refine ⟨by omega, rfl, ?_⟩
  rw [Bool.and_eq_true, decide_eq_true_eq, List.length_append, List.length_take,
    List.length_singleton, Nat.min_comm]
  rfl

theorem print_lines_inside {lines : List Bytes} {c final : SdpCursor}
    (printed : lines.foldlM printLine c = some final) :
    final.inside = true ↔
      c.inside = true ∧ ∀ store ∈ sdpStores c.cur lines, store.Inside := by
  induction lines generalizing c with
  | nil =>
      obtain rfl := Option.some.inj printed
      simp [sdpStores]
  | cons line lines ih =>
      rw [List.foldlM_cons, Option.bind_eq_bind] at printed
      obtain ⟨next, first, rest⟩ := Option.bind_eq_some_iff.mp printed
      obtain ⟨counted, cur, inside⟩ := print_line_some first
      rw [ih rest, inside, cur, sdpStores, if_neg (by omega), List.forall_mem_cons, and_assoc]

/-- The builder fails only at a line that an `int` cannot count. -/
theorem print_lines_isSome_iff (lines : List Bytes) (c : SdpCursor) :
    (lines.foldlM printLine c).isSome ↔ ∀ line ∈ lines, line.length ≤ intMax := by
  induction lines generalizing c with
  | nil => simp
  | cons line lines ih =>
      rw [List.foldlM_cons, Option.bind_eq_bind, List.forall_mem_cons]
      by_cases long : line.length > intMax
      · rw [printLine, if_pos long]
        refine iff_of_false (by simp) ?_
        rintro ⟨short, -⟩
        omega
      · rw [printLine, if_neg long, Option.bind_some, ih]
        exact (and_iff_right (by omega)).symm

theorem stores_of_lines_fit {lines : List Bytes} {cur : Nat} (fit : LinesFit cur lines) :
    ∀ store ∈ sdpStores cur lines, store.Inside := by
  induction lines generalizing cur with
  | nil =>
      intro store member
      simp [sdpStores] at member
  | cons line lines ih =>
      obtain ⟨short, room, rest⟩ := fit
      have limits : maxSdpDescSize = 64 ∧ intMax = 2147483647 := ⟨rfl, rfl⟩
      rw [sdpStores, if_neg (by omega), List.forall_mem_cons]
      refine ⟨?_, ih rest⟩
      change cur + (min line.length (maxSdpDescSize - 1) + 1) ≤ maxSdpMsgSize
      omega

theorem lines_fit {lines : List Bytes} {cur : Nat}
    (short : ∀ line ∈ lines, line.length < maxSdpDescSize)
    (room : cur + lines.flatten.length < maxSdpMsgSize) : LinesFit cur lines := by
  induction lines generalizing cur with
  | nil => trivial
  | cons line lines ih =>
      rw [List.forall_mem_cons] at short
      rw [List.flatten_cons, List.length_append] at room
      exact ⟨short.1, by omega, ih short.2 (by omega)⟩

theorem lines_short_of_fit {lines : List Bytes} {cur : Nat} (fit : LinesFit cur lines) :
    ∀ line ∈ lines, line.length < maxSdpDescSize := by
  induction lines generalizing cur with
  | nil =>
      intro line member
      simp at member
  | cons line lines ih =>
      obtain ⟨short, -, rest⟩ := fit
      rw [List.forall_mem_cons]
      exact ⟨short, ih rest⟩

/-! ## The lines of a session -/

/-- All stores are inside the array, and the builder returns -1 if a line is too
long for its window or for the array. -/
def BuilderBounded (session : Session) (sapFlags : UInt8) (time : Int64) : Prop :=
  (∀ store ∈ sdpStores 0 (sdpLines session time.toInt32), store.Inside) ∧
    (¬LinesFit 0 (sdpLines session time.toInt32) → buildSapMsg session sapFlags time = none)

theorem build_isSome_iff (session : Session) (sapFlags : UInt8) (time : Int64) :
    (buildSapMsg session sapFlags time).isSome ↔
      (cString session.streamName).length ≤ 2147483643 := by
  have limit : intMax = 2147483647 := rfl
  have length := session_name_length session.streamName
  rw [buildSapMsg, Option.isSome_map, print_lines_isSome_iff]
  constructor
  · intro counted
    have name := counted (sessionName session.streamName) (by simp [sdpLines])
    omega
  · intro named line member
    have short := sdp_lines_short session time.toInt32 (intMax + 1) (by decide) (by omega) line
      member
    omega

/-- A name that an `int` cannot count ends the builder at its third line, long
before the end of the array. -/
theorem stores_of_uncounted {session : Session} (now : Int32)
    (named : 2147483643 < (cString session.streamName).length) :
    ∀ store ∈ sdpStores 0 (sdpLines session now), store.Inside := by
  have version := fixed_line_lengths.1
  have owner := owner_id_length now session.localAddr
  have name := session_name_length session.streamName
  have limits : maxSdpDescSize = 64 ∧ maxSdpMsgSize = 512 ∧ intMax = 2147483647 :=
    ⟨rfl, rfl, rfl⟩
  have first : ¬verDesc.length > intMax := by omega
  have second : ¬(ownerId now session.localAddr).length > intMax := by omega
  have third : (sessionName session.streamName).length > intMax := by omega
  rw [sdpLines, List.cons_append, List.cons_append, List.cons_append, sdpStores, if_neg first,
    sdpStores, if_neg second, sdpStores, if_pos third]
  simp only [List.forall_mem_cons, Store.Inside, lineStore]
  refine ⟨by omega, by omega, by omega, by simp⟩

/-- The builder keeps to the array and reports what does not fit exactly for
names of at most 59 bytes, and for those of 2 GiB that no call can count. -/
theorem builder_bounded_iff (session : Session) (sapFlags : UInt8) (time : Int64) :
    BuilderBounded session sapFlags time ↔
      (cString session.streamName).length ≤ 59 ∨
        2147483643 < (cString session.streamName).length := by
  have returned := build_isSome_iff session sapFlags time
  have limits : maxSdpDescSize = 64 ∧ maxSdpMsgSize = 512 := ⟨rfl, rfl⟩
  constructor
  · rintro ⟨-, reported⟩
    by_contra other
    push Not at other
    have unfit : ¬LinesFit 0 (sdpLines session time.toInt32) := by
      intro fit
      have name := lines_short_of_fit fit (sessionName session.streamName) (by simp [sdpLines])
      rw [session_name_length] at name
      omega
    rw [reported unfit] at returned
    exact absurd (returned.mpr other.2) (by decide)
  · rintro (short | uncounted)
    · have length := sdp_text_length_le session time.toInt32
      rw [sdpText] at length
      have fit : LinesFit 0 (sdpLines session time.toInt32) :=
        lines_fit (sdp_lines_short session time.toInt32 _ (by decide) (by omega)) (by omega)
      exact ⟨stores_of_lines_fit fit, fun unfit => absurd fit unfit⟩
    · refine ⟨stores_of_uncounted time.toInt32 uncounted, fun _ => ?_⟩
      rw [← Option.not_isSome_iff_eq_none, returned]
      omega

def sampleLongName : Session where
  streamName := List.replicate 512 97 ++ [0]
  localAddr := 0x6801000a
  rtpMcastAddr := 0xdeb345ef
  audioFormat := 24
  audioSamplingRate := 48000
  audioChannels := 2
  ptpServerId := 0x782351feffc11d

theorem sample_long_name_length : (cString sampleLongName.streamName).length = 512 := by
  have text : cString sampleLongName.streamName = List.replicate 512 97 :=
    take_until (List.replicate 512 97) [] 0 fun member =>
      absurd (List.eq_of_mem_replicate member) (by decide)
  rw [text, List.length_replicate]

/-- The builder returns 0, and its fourth line is stored behind the array. -/
theorem sample_long_name_leaves_array :
    (buildSapMsg sampleLongName sapFlagsAnnounce 1311738121).isSome ∧
      ∃ store ∈ sdpStores 0 (sdpLines sampleLongName 1311738121), maxSdpMsgSize < store.offset := by
  have name := sample_long_name_length
  have length := session_name_length sampleLongName.streamName
  have version := fixed_line_lengths.1
  have owner := owner_id_length 1311738121 sampleLongName.localAddr
  have limits : maxSdpMsgSize = 512 ∧ intMax = 2147483647 := ⟨rfl, rfl⟩
  refine ⟨(build_isSome_iff _ _ _).mpr (by omega), ?_⟩
  refine ⟨lineStore (0 + verDesc.length + (ownerId 1311738121 sampleLongName.localAddr).length +
    (sessionName sampleLongName.streamName).length) mediaTitle, ?_, ?_⟩
  · rw [sdpLines, List.cons_append, List.cons_append, List.cons_append, List.cons_append,
      sdpStores, if_neg (by omega), sdpStores, if_neg (by omega), sdpStores, if_neg (by omega),
      sdpStores]
    simp
  · change maxSdpMsgSize < 0 + verDesc.length + _ + _
    omega

end AoipCore.Sap
