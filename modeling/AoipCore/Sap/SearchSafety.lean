import AoipCore.Library.AccessTrace
import AoipCore.Sap.Marks

/-!
# Which bytes the parser touches

`searchTraced` is the parser with a log of the bytes of `sdp` it reads and of the
bytes of `ascii_addr` it writes; its result is that of
`search_rtp_addr_from_sap_msg`. A length below 32 puts the bound of the scan in
front of its start, where it is never met: such a call stays inside the array
only if a `c=` stops it and what follows is decided in time.
-/

namespace AoipCore.Sap

open AccessTrace ByteBuffer PairScan AoipCore.Host AoipCore.Inet

set_option autoImplicit false

inductive Access where
  | read (offset : Nat)
  | write (index : Nat)
  deriving DecidableEq, Repr

def Access.Inside : Access → Prop
  | .read offset => offset < maxSdpMsgSize
  | .write index => index < maxIpv4AsciiSize

instance (access : Access) : Decidable access.Inside :=
  match access with
  | .read offset => inferInstanceAs (Decidable (offset < maxSdpMsgSize))
  | .write index => inferInstanceAs (Decidable (index < maxIpv4AsciiSize))

def readSdp (sdp : Bytes) (offset : Nat) : Traced Access UInt8 where
  accesses := [.read offset]
  value := sdp[offset]?

def writeAsciiAddr (index : Nat) : Traced Access Unit where
  accesses := [.write index]
  value := some ()

def scanTraced (sdp : Bytes) (stop : Int) : Nat → Nat → Traced Access (Option Nat)
  | 0, _ => ⟨[], none⟩
  | fuel + 1, p =>
      if (p : Int) = stop then .pure none
      else (readSdp sdp (p + 1)).bind fun byte =>
        if byte = 99 then (readSdp sdp (p + 2)).bind fun next =>
          if next = 61 then .pure (some (p + 1)) else scanTraced sdp stop fuel (p + 1)
        else scanTraced sdp stop fuel (p + 1)

def expectTraced (sdp : Bytes) : List (Nat × UInt8) → Traced Access Bool
  | [] => .pure true
  | (position, wanted) :: rest => (readSdp sdp position).bind fun byte =>
      if byte = wanted then expectTraced sdp rest else .pure false

/-- Each byte is stored before the index is tested. -/
def copyTraced (sdp : Bytes) : Nat → Nat → Bytes → Traced Access (Option Bytes)
  | 0, _, _ => .pure none
  | room + 1, p, copied => (readSdp sdp p).bind fun byte =>
      if byte = 47 then .pure (some copied)
      else (writeAsciiAddr copied.length).bind fun _ =>
        if room = 0 then .pure none else copyTraced sdp room (p + 1) (copied ++ [byte])

def searchTraced (sdp : Bytes) (len : UInt16) : Traced Access (Int32 × Option UInt32) :=
  (expectTraced sdp [(0, 118), (1, 61), (2, 48)]).bind fun version =>
    if version then
      (scanTraced sdp ((len.toNat : Int) - 1 - minSapCMsgSize) maxSdpMsgSize 4).bind fun found =>
        match found with
        | none => .pure (-1, none)
        | some position =>
            (expectTraced sdp [(position + 2, 73), (position + 2 + 1, 78), (position + 2 + 3, 73),
              (position + 2 + 4, 80), (position + 2 + 5, 52)]).bind fun family =>
              if family then
                (copyTraced sdp maxIpv4AsciiSize (position + 2 + 7) []).bind fun copied =>
                  match copied with
                  | none => .pure (-1, none)
                  | some text =>
                      match inetPton (cString text) with
                      | some addr => .pure (1, some addr)
                      | none => .pure (0, none)
              else .pure (-1, none)
    else .pure (-1, none)

/-! ## The log does not change the result -/

def Scan.result : Scan → Option (Option Nat)
  | .found position => some (some position)
  | .missing => some none
  | .fault => none

def Copied.result : Copied → Option (Option Bytes)
  | .address text => some (some text)
  | .tooLong => some none
  | .fault => none

theorem scan_traced_value (sdp : Bytes) (stop : Int) (fuel p : Nat) :
    (scanTraced sdp stop fuel p).value = (scanConnect sdp stop fuel p).result := by
  induction fuel generalizing p with
  | zero => rfl
  | succ fuel ih =>
      rw [scanTraced, scanConnect]
      split_ifs with met
      · rfl
      · rw [bind_value, readSdp]
        dsimp only
        cases first : sdp[p + 1]? with
        | none => rfl
        | some byte =>
            rw [Option.bind_some]
            dsimp only
            split_ifs with mark
            · rw [bind_value, readSdp]
              dsimp only
              cases second : sdp[p + 2]? with
              | none => rfl
              | some next =>
                  rw [Option.bind_some]
                  dsimp only
                  split_ifs with equals
                  · rfl
                  · exact ih (p + 1)
            · exact ih (p + 1)

theorem expect_traced_value (sdp : Bytes) (wanted : List (Nat × UInt8)) :
    (expectTraced sdp wanted).value = expectBytes sdp wanted := by
  induction wanted with
  | nil => rfl
  | cons entry rest ih =>
      obtain ⟨position, symbol⟩ := entry
      rw [expectTraced, expectBytes, bind_value, readSdp]
      dsimp only
      cases sdp[position]? with
      | none => rfl
      | some byte =>
          rw [Option.bind_some]
          dsimp only
          split_ifs with same
          · exact ih
          · rfl

theorem copy_traced_value (sdp : Bytes) (room p : Nat) (copied : Bytes) :
    (copyTraced sdp room p copied).value = (copyAddress sdp room p copied).result := by
  induction room generalizing p copied with
  | zero => rfl
  | succ room ih =>
      rw [copyTraced, copyAddress, bind_value, readSdp]
      dsimp only
      cases sdp[p]? with
      | none => rfl
      | some byte =>
          rw [Option.bind_some]
          dsimp only
          split_ifs with slash full
          · rfl
          · rw [bind_value, writeAsciiAddr]
            rfl
          · rw [bind_value, writeAsciiAddr]
            exact ih (p + 1) (copied ++ [byte])

theorem search_traced_value (sdp : Bytes) (len : UInt16) :
    (searchTraced sdp len).value = searchRtpAddrFromSapMsg sdp len := by
  rw [searchTraced, searchRtpAddrFromSapMsg, bind_value, expect_traced_value]
  dsimp only
  cases expectBytes sdp [(0, 118), (1, 61), (2, 48)] with
  | none => rfl
  | some version =>
      cases version with
      | false => rfl
      | true =>
          rw [Option.bind_some, if_pos rfl, bind_value, scan_traced_value]
          cases scanConnect sdp ((len.toNat : Int) - 1 - minSapCMsgSize) maxSdpMsgSize 4 with
          | fault => rfl
          | missing => rfl
          | found position =>
              rw [Scan.result, Option.bind_some]
              dsimp only
              rw [bind_value, expect_traced_value]
              cases expectBytes sdp [(position + 2, 73), (position + 2 + 1, 78),
                  (position + 2 + 3, 73), (position + 2 + 4, 80), (position + 2 + 5, 52)] with
              | none => rfl
              | some family =>
                  cases family with
                  | false => rfl
                  | true =>
                      rw [Option.bind_some, if_pos rfl, bind_value, copy_traced_value]
                      cases copyAddress sdp maxIpv4AsciiSize (position + 2 + 7) [] with
                      | fault => rfl
                      | tooLong => rfl
                      | address text =>
                          rw [Copied.result, Option.bind_some]
                          dsimp only
                          cases inetPton (cString text) with
                          | none => rfl
                          | some addr => rfl

/-! ## A call returns exactly if it stays inside the arrays -/

theorem read_guarded {sdp : Bytes} (array : sdp.length = maxSdpMsgSize) (offset : Nat) :
    (readSdp sdp offset).Guarded Access.Inside := by
  rw [Traced.Guarded, readSdp]
  simp [Access.Inside, array]

theorem write_guarded {index : Nat} (inside : index < maxIpv4AsciiSize) :
    (writeAsciiAddr index).Guarded Access.Inside := by
  rw [Traced.Guarded, writeAsciiAddr, List.forall_mem_singleton]
  exact iff_of_true rfl inside

theorem expect_guarded {sdp : Bytes} (array : sdp.length = maxSdpMsgSize)
    (wanted : List (Nat × UInt8)) : (expectTraced sdp wanted).Guarded Access.Inside := by
  induction wanted with
  | nil => exact guarded_pure true
  | cons entry wanted ih =>
      apply guarded_bind (read_guarded array entry.1)
      intro byte _
      split_ifs with same
      · exact ih
      · exact guarded_pure false

/-- The fuel lasts as long as the position is inside the array. -/
theorem scan_guarded {sdp : Bytes} (array : sdp.length = maxSdpMsgSize) (stop : Int)
    (fuel p : Nat) (inside : p < sdp.length) (enough : sdp.length ≤ p + fuel) :
    (scanTraced sdp stop fuel p).Guarded Access.Inside := by
  induction fuel generalizing p with
  | zero => omega
  | succ fuel ih =>
      rw [scanTraced]
      split_ifs with met
      · exact guarded_pure none
      · apply guarded_bind (read_guarded array (p + 1))
        intro byte first
        have later := ih (p + 1) (List.getElem?_eq_some_iff.mp first).1 (by omega)
        split_ifs with mark
        · apply guarded_bind (read_guarded array (p + 2))
          intro next _
          split_ifs with equals
          · exact guarded_pure (some (p + 1))
          · exact later
        · exact later

theorem copy_guarded {sdp : Bytes} (array : sdp.length = maxSdpMsgSize) (room p : Nat)
    (copied : Bytes) (fits : copied.length + room ≤ maxIpv4AsciiSize) :
    (copyTraced sdp room p copied).Guarded Access.Inside := by
  induction room generalizing p copied with
  | zero => exact guarded_pure none
  | succ room ih =>
      apply guarded_bind (read_guarded array p)
      intro byte _
      by_cases slash : byte = 47
      · rw [if_pos slash]
        exact guarded_pure (some copied)
      · rw [if_neg slash]
        apply guarded_bind (write_guarded (by omega))
        intro _ _
        split_ifs with full
        · exact guarded_pure none
        · apply ih (p + 1) (copied ++ [byte])
          rw [List.length_append, List.length_singleton]
          omega

theorem search_guarded {sdp : Bytes} (array : sdp.length = maxSdpMsgSize) (len : UInt16) :
    (searchTraced sdp len).Guarded Access.Inside := by
  apply guarded_bind (expect_guarded array _)
  intro version _
  split_ifs with versionZero
  · apply guarded_bind (scan_guarded array _ _ _ (by rw [array]; decide) (by omega))
    intro found _
    cases found with
    | none => exact guarded_pure (-1, none)
    | some position =>
        apply guarded_bind (expect_guarded array _)
        intro family _
        split_ifs with ipv4
        · apply guarded_bind (copy_guarded array _ _ _ (by simp))
          intro copied _
          cases copied with
          | none => exact guarded_pure (-1, none)
          | some text =>
              dsimp only
              cases inetPton (cString text) with
              | none => exact guarded_pure (0, none)
              | some addr => exact guarded_pure (1, some addr)
        · exact guarded_pure (-1, none)
  · exact guarded_pure (-1, none)

/-! ## When a call stays inside -/

/-- The first `c=` behind the version line, with bytes that settle the result. -/
def MarkDecided (sdp : Bytes) : Prop :=
  ∃ front rest, sdp.drop 5 = front ++ 99 :: 61 :: rest ∧ ¬[99, 61] <:+: front ++ [99] ∧ Decided rest

theorem search_bounded {sdp : Bytes} (array : sdp.length = maxSdpMsgSize) {len : UInt16}
    (limit : len.toNat ≤ maxSdpMsgSize) (long : 32 ≤ len.toNat)
    (version : [118, 61, 48] <+: sdp) : (searchRtpAddrFromSapMsg sdp len).isSome := by
  have sizes : maxSdpMsgSize = 512 ∧ minSapCMsgSize = 27 := ⟨rfl, rfl⟩
  have stop : (len.toNat : Int) - 1 - minSapCMsgSize = ((len.toNat - 28 : Nat) : Int) := by omega
  rw [search_after_version version, stop]
  rcases scan_bounded sdp (len.toNat - 28) maxSdpMsgSize 4 (by omega) (by omega) (by omega) with
    missing | ⟨position, found, early⟩
  · rw [missing]
    rfl
  · rw [found]
    dsimp only
    rw [connection_result_isSome_iff]
    right
    right
    rw [List.length_drop]
    omega

/-- A length below 32 has no part in the result. -/
theorem search_unbounded_iff {sdp : Bytes} (array : sdp.length = maxSdpMsgSize) {len : UInt16}
    (short : len.toNat < 32) (version : [118, 61, 48] <+: sdp) :
    (searchRtpAddrFromSapMsg sdp len).isSome ↔ MarkDecided sdp := by
  have sizes : maxSdpMsgSize = 512 ∧ minSapCMsgSize = 27 := ⟨rfl, rfl⟩
  have passed : (len.toNat : Int) - 1 - minSapCMsgSize < (4 : Nat) := by omega
  rw [search_after_version version]
  have atMark : ∀ front rest, sdp.drop 5 = front ++ 99 :: 61 :: rest →
      occurs 99 61 (front ++ [99]) = false →
      scanConnect sdp ((len.toNat : Int) - 1 - minSapCMsgSize) maxSdpMsgSize 4 =
          .found (5 + front.length) ∧ sdp.drop (5 + front.length + 2) = rest := by
    intro front rest text unmarked
    have length := congrArg List.length text
    rw [List.length_drop, List.length_append, List.length_cons] at length
    constructor
    · rw [scan_first_mark sdp _ _ 4 front rest text unmarked (by omega), if_neg (by omega)]
    · rw [Nat.add_assoc, ← List.drop_drop, text, ← List.drop_drop, List.drop_left]
      rfl
  constructor
  · intro returned
    cases marked : occurs 99 61 (sdp.drop 5) with
    | false =>
        rw [scan_runs_out sdp _ _ 4 passed marked] at returned
        simp at returned
    | true =>
        obtain ⟨front, rest, text, unmarked⟩ := occurs_first marked
        obtain ⟨found, behind⟩ := atMark front rest text unmarked
        rw [found] at returned
        dsimp only at returned
        rw [behind, connection_result_isSome_iff] at returned
        refine ⟨front, rest, text, ?_, returned⟩
        rw [← occurs_iff_infix, unmarked]
        simp
  · rintro ⟨front, rest, text, unmarked, decided⟩
    rw [← occurs_iff_infix, Bool.not_eq_true] at unmarked
    obtain ⟨found, behind⟩ := atMark front rest text unmarked
    rw [found]
    dsimp only
    rwa [behind, connection_result_isSome_iff]

/-- The call returns, and every byte it reads or writes lies in its array. -/
def SearchSafe (sdp : Bytes) (len : UInt16) : Prop :=
  (searchTraced sdp len).value.isSome ∧ ∀ access ∈ (searchTraced sdp len).accesses, access.Inside

/-- The parser is safe exactly for lengths from 32 on, for texts of another
version, and for arrays in which the first `c=` is followed by bytes that settle
the result. -/
theorem search_safe_iff (sdp : Bytes) (len : UInt16) (array : sdp.length = maxSdpMsgSize)
    (limit : len.toNat ≤ maxSdpMsgSize) :
    SearchSafe sdp len ↔
      32 ≤ len.toNat ∨ ¬[118, 61, 48] <+: sdp ∨ MarkDecided sdp := by
  have returns : SearchSafe sdp len ↔ (searchRtpAddrFromSapMsg sdp len).isSome := by
    have guarded := search_guarded array len
    unfold Traced.Guarded at guarded
    rw [SearchSafe, ← guarded, search_traced_value, and_self]
  rw [returns]
  by_cases version : [118, 61, 48] <+: sdp
  · by_cases long : 32 ≤ len.toNat
    · exact iff_of_true (search_bounded array limit long version) (.inl long)
    · rw [search_unbounded_iff array (by omega) version]
      simp [long, version]
  · rw [search_other_version (by rw [array]; decide) version]
    simp [version]

/-- A text without a connection line, in an array of zeros. -/
def bareText : Bytes := [118, 61, 48, 13, 10] ++ List.replicate 507 0

theorem bare_text_length : bareText.length = maxSdpMsgSize := by
  rw [bareText, List.length_append, List.length_replicate]
  rfl

theorem sample_search_safe :
    SearchSafe bareText 32 ↔
      32 ≤ (32 : UInt16).toNat ∨ ¬[118, 61, 48] <+: bareText ∨ MarkDecided bareText :=
  search_safe_iff bareText 32 bare_text_length (by decide)

/-- With the length 0 the scan leaves the array. -/
theorem sample_search_leaves_the_array :
    (bareText.length = maxSdpMsgSize ∧ (0 : UInt16).toNat ≤ maxSdpMsgSize) ∧
    searchRtpAddrFromSapMsg bareText 0 = none ∧
    (∃ access ∈ (searchTraced bareText 0).accesses, ¬access.Inside) ∧ ¬SearchSafe bareText 0 := by
  have version : [118, 61, 48] <+: bareText := ⟨_, rfl⟩
  have blank : occurs 99 61 (bareText.drop (4 + 1)) = false := by
    apply not_occurs_of_not_mem
    have zeros : bareText.drop (4 + 1) = List.replicate 507 0 := rfl
    rw [zeros]
    exact fun mark => absurd (List.eq_of_mem_replicate mark) (by decide)
  have lost : searchRtpAddrFromSapMsg bareText 0 = none := by
    rw [search_after_version version, scan_runs_out _ _ _ 4 (by decide) blank]
  have guarded := search_guarded bare_text_length 0
  rw [Traced.Guarded, search_traced_value, lost, Option.isSome_none] at guarded
  have outside : ¬∀ access ∈ (searchTraced bareText 0).accesses, access.Inside :=
    fun inside => absurd (guarded.mpr inside) (by simp)
  refine ⟨⟨bare_text_length, by decide⟩, lost, ?_, fun safe => outside safe.2⟩
  simpa using outside

end AoipCore.Sap
