import AoipCore.Sap.Search

/-!
# The parser in terms of the first `c=`

Behind the version line the parser looks for the two characters `c=`, wherever
they stand, and decides the rest by the bytes that follow them. `Decided` says
when those bytes settle the result before the array ends, and `Announces` when
they are taken for an address.
-/

namespace AoipCore.Sap

open ByteBuffer PairScan AoipCore.Host AoipCore.Inet

set_option autoImplicit false

/-- `IN IP4` without the blank, which is not tested. -/
def familyBytes : List (Nat × UInt8) := [(0, 73), (1, 78), (3, 73), (4, 80), (5, 52)]

/-- The last part of the parser, as a function of what follows `c=`. -/
def connectionResult (rest : Bytes) : SearchResult :=
  match expectBytes rest familyBytes with
  | none => none
  | some false => some (-1, none)
  | some true =>
      match copyAddress rest maxIpv4AsciiSize 7 [] with
      | .fault => none
      | .tooLong => some (-1, none)
      | .address text =>
          match inetPton (cString text) with
          | some addr => some (1, some addr)
          | none => some (0, none)

/-! ## Reading from a later start -/

theorem expect_bytes_drop (sdp : Bytes) (start : Nat) (wanted : List (Nat × UInt8)) :
    expectBytes sdp (wanted.map fun entry => (start + entry.1, entry.2)) =
      expectBytes (sdp.drop start) wanted := by
  induction wanted with
  | nil => rfl
  | cons entry wanted ih =>
      rw [List.map_cons, expectBytes, expectBytes, List.getElem?_drop, ih]

theorem copy_address_drop (sdp : Bytes) (start room p : Nat) (copied : Bytes) :
    copyAddress sdp room (start + p) copied = copyAddress (sdp.drop start) room p copied := by
  induction room generalizing p copied with
  | zero => rfl
  | succ room ih =>
      rw [copyAddress, copyAddress, List.getElem?_drop]
      cases sdp[start + p]? with
      | none => rfl
      | some byte =>
          dsimp only
          rw [Nat.add_assoc, ih (p + 1)]

/-! ## The bytes behind the mark -/

theorem expect_bytes_true_iff (bytes : Bytes) (wanted : List (Nat × UInt8)) :
    expectBytes bytes wanted = some true ↔ ∀ entry ∈ wanted, bytes[entry.1]? = some entry.2 := by
  induction wanted with
  | nil => simp [expectBytes]
  | cons entry wanted ih =>
      rw [expectBytes, List.forall_mem_cons, ← ih]
      cases bytes[entry.1]? with
      | none => simp
      | some byte =>
          dsimp only
          split_ifs with same
          · simp [same]
          · simp [same]

theorem expect_bytes_read {bytes : Bytes} {wanted : List (Nat × UInt8)}
    (inside : ∀ entry ∈ wanted, entry.1 < bytes.length) : expectBytes bytes wanted ≠ none := by
  induction wanted with
  | nil => simp [expectBytes]
  | cons entry wanted ih =>
      rw [List.forall_mem_cons] at inside
      rw [expectBytes, List.getElem?_eq_getElem inside.1]
      dsimp only
      split_ifs with same
      · exact ih inside.2
      · simp

/-- With positions in ascending order the first difference is met before the
end of the bytes. -/
theorem expect_bytes_false_iff (bytes : Bytes) (wanted : List (Nat × UInt8))
    (ascending : wanted.Pairwise fun early late => early.1 ≤ late.1) :
    expectBytes bytes wanted = some false ↔
      ∃ entry ∈ wanted, ∃ byte, bytes[entry.1]? = some byte ∧ byte ≠ entry.2 := by
  induction wanted with
  | nil => simp [expectBytes]
  | cons entry wanted ih =>
      rw [List.pairwise_cons] at ascending
      rw [expectBytes, List.exists_mem_cons_iff, ← ih ascending.2]
      cases first : bytes[entry.1]? with
      | none =>
          have ended := List.getElem?_eq_none_iff.mp first
          constructor
          · intro impossible
            simp at impossible
          · rintro (⟨byte, read, -⟩ | later)
            · simp at read
            · obtain ⟨other, member, byte, read, -⟩ := (ih ascending.2).mp later
              have order := ascending.1 other member
              rw [List.getElem?_eq_none_iff.mpr (by omega)] at read
              simp at read
      | some byte =>
          dsimp only
          split_ifs with same
          · simp [same]
          · simp [same]

def FamilyDiffers (rest : Bytes) : Prop :=
  ∃ entry ∈ familyBytes, ∃ byte, rest[entry.1]? = some byte ∧ byte ≠ entry.2

def FamilyMatches (rest : Bytes) : Prop :=
  ∀ entry ∈ familyBytes, rest[entry.1]? = some entry.2

/-- The bytes behind the mark settle the result. -/
def Decided (rest : Bytes) : Prop :=
  FamilyDiffers rest ∨ 47 ∈ rest.drop 7 ∨ 22 ≤ rest.length

/-- The bytes behind the mark are taken for an address. -/
def Announces (rest : Bytes) : Prop :=
  FamilyMatches rest ∧ 47 ∈ (rest.drop 7).take maxIpv4AsciiSize

instance (rest : Bytes) : Decidable (Announces rest) :=
  inferInstanceAs (Decidable ((∀ entry ∈ familyBytes, rest[entry.1]? = some entry.2) ∧
    47 ∈ (rest.drop 7).take maxIpv4AsciiSize))

theorem family_false_iff (rest : Bytes) :
    expectBytes rest familyBytes = some false ↔ FamilyDiffers rest :=
  expect_bytes_false_iff rest familyBytes (by decide)

theorem family_true_iff (rest : Bytes) :
    expectBytes rest familyBytes = some true ↔ FamilyMatches rest :=
  expect_bytes_true_iff rest familyBytes

theorem copy_address_cases (text : Bytes) (room p : Nat) (copied : Bytes) :
    (47 ∈ (text.drop p).take room → ∃ address, copyAddress text room p copied = .address address) ∧
    (47 ∉ (text.drop p).take room → room ≤ (text.drop p).length →
      copyAddress text room p copied = .tooLong) ∧
    (47 ∉ (text.drop p).take room → (text.drop p).length < room →
      copyAddress text room p copied = .fault) := by
  refine ⟨?_, ?_, ?_⟩
  · intro slash
    obtain ⟨front, back, split, plain⟩ := List.eq_append_cons_of_mem slash
    have source : text.drop p = front ++ 47 :: (back ++ (text.drop p).drop room) := by
      rw [← List.cons_append, ← List.append_assoc, ← split, List.take_append_drop]
    have fits : front.length < room := by
      have bound := List.length_take_le room (text.drop p)
      rw [split, List.length_append, List.length_cons] at bound
      omega
    exact ⟨_, copy_address_fits text room p copied front _ source plain fits⟩
  · intro plain long
    apply copy_address_too_long text room p copied _ _ (List.take_append_drop room _).symm plain
    rw [List.length_take]
    omega
  · intro plain short
    rw [List.take_of_length_le (by omega)] at plain
    induction room generalizing p copied with
    | zero => omega
    | succ room ih =>
        rw [copyAddress]
        cases first : text[p]? with
        | none => rfl
        | some byte =>
            rw [drop_of_read first, List.mem_cons, not_or] at plain
            rw [drop_of_read first, List.length_cons] at short
            dsimp only
            rw [if_neg (Ne.symm plain.1), ih (p + 1) _ plain.2 (by omega)]
            rw [if_neg]
            rintro rfl
            omega

theorem connection_result_announced {rest : Bytes} (announced : Announces rest) :
    ∃ code addr, connectionResult rest = some (code, addr) ∧ code ≠ -1 := by
  obtain ⟨address, copied⟩ := (copy_address_cases rest maxIpv4AsciiSize 7 []).1 announced.2
  rw [connectionResult, (family_true_iff rest).mpr announced.1]
  dsimp only
  rw [copied]
  dsimp only
  cases inetPton (cString address) with
  | none => exact ⟨0, none, rfl, by decide⟩
  | some addr => exact ⟨1, some addr, rfl, by decide⟩

theorem connection_result_refused {rest : Bytes} (decided : Decided rest)
    (silent : ¬Announces rest) : connectionResult rest = some (-1, none) := by
  have limit : maxIpv4AsciiSize = 15 := rfl
  rw [connectionResult]
  rcases decided with differs | enough
  · rw [(family_false_iff rest).mpr differs]
  · have long : 7 < rest.length := by
      rcases enough with slash | long
      · have present := List.length_pos_of_mem slash
        rw [List.length_drop] at present
        omega
      · omega
    cases family : expectBytes rest familyBytes with
    | none =>
        refine absurd family (expect_bytes_read ?_)
        simp only [familyBytes, List.forall_mem_cons, List.not_mem_nil, IsEmpty.forall_iff,
          implies_true, and_true]
        omega
    | some result =>
        cases result with
        | false => rfl
        | true =>
            have plain : 47 ∉ (rest.drop 7).take maxIpv4AsciiSize := by
              intro slash
              exact silent ⟨(family_true_iff rest).mp family, slash⟩
            have fills : maxIpv4AsciiSize ≤ (rest.drop 7).length := by
              by_contra short
              rw [List.take_of_length_le (by omega)] at plain
              rw [List.length_drop] at short
              rcases enough with slash | long
              · exact plain slash
              · omega
            dsimp only
            rw [(copy_address_cases rest maxIpv4AsciiSize 7 []).2.1 plain fills]

theorem connection_result_faults {rest : Bytes} (undecided : ¬Decided rest) :
    connectionResult rest = none := by
  simp only [Decided, not_or] at undecided
  obtain ⟨same, plain, short⟩ := undecided
  have limit : maxIpv4AsciiSize = 15 := rfl
  rw [connectionResult]
  cases family : expectBytes rest familyBytes with
  | none => rfl
  | some result =>
      cases result with
      | false => exact absurd ((family_false_iff rest).mp family) same
      | true =>
          dsimp only
          rw [(copy_address_cases rest maxIpv4AsciiSize 7 []).2.2]
          · exact fun slash => plain (List.mem_of_mem_take slash)
          · rw [List.length_drop]
            omega

theorem connection_result_isSome_iff (rest : Bytes) :
    (connectionResult rest).isSome ↔ Decided rest := by
  constructor
  · intro returned
    by_contra undecided
    rw [connection_result_faults undecided] at returned
    simp at returned
  · intro decided
    by_cases announced : Announces rest
    · obtain ⟨code, addr, result, -⟩ := connection_result_announced announced
      rw [result]
      rfl
    · rw [connection_result_refused decided announced]
      rfl

/-! ## The whole parser -/

theorem version_true_iff (sdp : Bytes) :
    expectBytes sdp [(0, 118), (1, 61), (2, 48)] = some true ↔ [118, 61, 48] <+: sdp := by
  rw [expect_bytes_true_iff, List.prefix_iff_getElem?]
  simp only [List.forall_mem_cons, List.not_mem_nil, IsEmpty.forall_iff, implies_true, and_true]
  constructor
  · rintro ⟨first, second, third⟩ i bound
    obtain - | - | - | i := i
    · exact first
    · exact second
    · exact third
    · exact absurd bound (by simp)
  · intro same
    exact ⟨same 0 (by simp), same 1 (by simp), same 2 (by simp)⟩

theorem search_other_version {sdp : Bytes} (long : 3 ≤ sdp.length)
    (other : ¬[118, 61, 48] <+: sdp) (len : UInt16) :
    searchRtpAddrFromSapMsg sdp len = some (-1, none) := by
  rw [searchRtpAddrFromSapMsg]
  cases version : expectBytes sdp [(0, 118), (1, 61), (2, 48)] with
  | none =>
      refine absurd version (expect_bytes_read ?_)
      simp only [List.forall_mem_cons, List.not_mem_nil, IsEmpty.forall_iff, implies_true, and_true]
      omega
  | some result =>
      cases result with
      | false => rfl
      | true => exact absurd ((version_true_iff sdp).mp version) other

theorem search_after_version {sdp : Bytes} (version : [118, 61, 48] <+: sdp) (len : UInt16) :
    searchRtpAddrFromSapMsg sdp len =
      match scanConnect sdp ((len.toNat : Int) - 1 - minSapCMsgSize) maxSdpMsgSize 4 with
      | .fault => none
      | .missing => some (-1, none)
      | .found position => connectionResult (sdp.drop (position + 2)) := by
  rw [searchRtpAddrFromSapMsg, (version_true_iff sdp).mpr version]
  dsimp only
  cases scanConnect sdp ((len.toNat : Int) - 1 - minSapCMsgSize) maxSdpMsgSize 4 with
  | fault => rfl
  | missing => rfl
  | found position =>
      dsimp only
      rw [connectionResult, ← expect_bytes_drop, ← copy_address_drop]
      rfl

/-- A bound inside the array is met, at the latest, when all positions in front
of it have been read. -/
theorem scan_bounded (sdp : Bytes) (stop fuel p : Nat) (reached : p ≤ stop)
    (inside : stop + 2 ≤ sdp.length) (enough : stop < p + fuel) :
    scanConnect sdp stop fuel p = .missing ∨
      ∃ position, scanConnect sdp stop fuel p = .found position ∧ position ≤ stop := by
  induction fuel generalizing p with
  | zero => omega
  | succ fuel ih =>
      rw [scanConnect]
      split_ifs with met
      · exact .inl rfl
      · have later := ih (p + 1) (by omega) (by omega)
        rw [List.getElem?_eq_getElem (by omega), List.getElem?_eq_getElem (by omega)]
        dsimp only
        split_ifs with mark equals
        · exact .inr ⟨p + 1, rfl, by omega⟩
        · exact later
        · exact later

/-- A bound that has been passed is never met: without a mark the scan leaves
the array. -/
theorem scan_runs_out (sdp : Bytes) (stop : Int) (fuel p : Nat) (passed : stop < p)
    (unmarked : occurs 99 61 (sdp.drop (p + 1)) = false) :
    scanConnect sdp stop fuel p = .fault := by
  induction fuel generalizing p with
  | zero => rfl
  | succ fuel ih =>
      have running : (p : Int) ≠ stop := by omega
      cases text : sdp.drop (p + 1) with
      | nil =>
          rw [scanConnect, if_neg running, List.getElem?_eq_none (List.drop_eq_nil_iff.mp text)]
      | cons byte rest =>
          obtain ⟨first, onward⟩ := read_front text
          rw [text, occurs_cons, Bool.or_eq_false_iff] at unmarked
          by_cases last : byte = 99 ∧ rest = []
          · obtain ⟨rfl, rfl⟩ := last
            rw [scanConnect, if_neg running, first,
              List.getElem?_eq_none (List.drop_eq_nil_iff.mp onward)]
            rfl
          · rw [scan_passes fuel running text (by simpa using unmarked.1)
              fun mark ended => last ⟨mark, ended⟩]
            apply ih (p + 1) (by push_cast; omega)
            rw [onward]
            exact unmarked.2

end AoipCore.Sap
