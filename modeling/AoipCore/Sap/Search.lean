import AoipCore.Library.PairScan
import AoipCore.Sap.Build

/-!
# Finding the stream address in an SDP text (`search_rtp_addr_from_sap_msg`)

Positions are offsets from the start of `sdp`. A read outside the 512 bytes of
the array is a fault. The scan for the connection line stops when its position
equals a bound that is computed from `len`, so a bound that is never met runs
into a fault. The address is copied into an array of 15 bytes, of which the
last one may never be used.
-/

namespace AoipCore.Sap

open ByteBuffer PairScan AoipCore.Host AoipCore.Inet

set_option autoImplicit false

def maxIpv4AsciiSize : Nat := 15
def minSapCMsgSize : Nat := 27

inductive Scan where
  | found (position : Nat)
  | missing
  | fault
  deriving DecidableEq, Repr

/-- `while (p++ != stop)`; `fuel` counts the positions left in the array. -/
def scanConnect (sdp : Bytes) (stop : Int) : Nat → Nat → Scan
  | 0, _ => .fault
  | fuel + 1, p =>
      if (p : Int) = stop then .missing
      else
        match sdp[p + 1]? with
        | none => .fault
        | some byte =>
            if byte = 99 then
              match sdp[p + 2]? with
              | none => .fault
              | some next => if next = 61 then .found (p + 1) else scanConnect sdp stop fuel (p + 1)
            else scanConnect sdp stop fuel (p + 1)

inductive Copied where
  | address (text : Bytes)
  | tooLong
  | fault
  deriving DecidableEq, Repr

/-- Copies up to the slash; `room` is what is left of `ascii_addr`. -/
def copyAddress (sdp : Bytes) : Nat → Nat → Bytes → Copied
  | 0, _, _ => .tooLong
  | room + 1, p, copied =>
      match sdp[p]? with
      | none => .fault
      | some byte =>
          if byte = 47 then .address copied
          else if room = 0 then .tooLong
          else copyAddress sdp room (p + 1) (copied ++ [byte])

/-- The value returned and the address stored; `none` is a fault. -/
abbrev SearchResult := Option (Int32 × Option UInt32)

/-- The tests behind `c=`, made one byte at a time and given up at the first
that differs. -/
def expectBytes (sdp : Bytes) : List (Nat × UInt8) → Option Bool
  | [] => some true
  | (position, wanted) :: rest =>
      match sdp[position]? with
      | none => none
      | some byte => if byte = wanted then expectBytes sdp rest else some false

def searchRtpAddrFromSapMsg (sdp : Bytes) (len : UInt16) : SearchResult :=
  let stop : Int := (len.toNat : Int) - 1 - minSapCMsgSize
  match expectBytes sdp [(0, 118), (1, 61), (2, 48)] with
  | none => none
  | some false => some (-1, none)
  | some true =>
      match scanConnect sdp stop maxSdpMsgSize 4 with
      | .fault => none
      | .missing => some (-1, none)
      | .found position =>
          let p := position + 2
          match expectBytes sdp [(p, 73), (p + 1, 78), (p + 3, 73), (p + 4, 80), (p + 5, 52)] with
          | none => none
          | some false => some (-1, none)
          | some true =>
              match copyAddress sdp maxIpv4AsciiSize (p + 7) [] with
              | .fault => none
              | .tooLong => some (-1, none)
              | .address text =>
                  match inetPton (cString text) with
                  | some addr => some (1, some addr)
                  | none => some (0, none)

/-! ## The scan stops at the first mark

unless its position meets the bound before. -/

/-- A byte that does not start a mark is passed, unless it is a `c` at the end
of the array. -/
theorem scan_passes {sdp rest : Bytes} {stop : Int} {p : Nat} {byte : UInt8} (fuel : Nat)
    (running : (p : Int) ≠ stop) (text : sdp.drop (p + 1) = byte :: rest)
    (unmarked : ¬(byte = 99 ∧ rest.head? = some 61)) (followed : byte = 99 → rest ≠ []) :
    scanConnect sdp stop (fuel + 1) p = scanConnect sdp stop fuel (p + 1) := by
  obtain ⟨first, onward⟩ := read_front text
  rw [scanConnect, if_neg running, first]
  dsimp only
  split_ifs with mark
  · obtain ⟨next, more, rfl⟩ := List.exists_cons_of_ne_nil (followed mark)
    obtain ⟨second, -⟩ := read_front onward
    have other : next ≠ 61 := by
      intro same
      exact unmarked ⟨mark, by rw [List.head?_cons, same]⟩
    rw [second]
    dsimp only
    rw [if_neg other]
  · rfl

theorem scan_first_mark (sdp : Bytes) (stop : Int) (fuel p : Nat) (front rest : Bytes)
    (text : sdp.drop (p + 1) = front ++ 99 :: 61 :: rest)
    (unmarked : occurs 99 61 (front ++ [99]) = false) (enough : front.length < fuel) :
    scanConnect sdp stop fuel p =
      if (p : Int) ≤ stop ∧ stop ≤ p + front.length then .missing
      else .found (p + 1 + front.length) := by
  obtain ⟨fuel, rfl⟩ : ∃ smaller, fuel = smaller + 1 := ⟨fuel - 1, by omega⟩
  by_cases met : (p : Int) = stop
  · rw [scanConnect, if_pos met, if_pos (by omega)]
  induction front generalizing fuel p with
  | nil =>
      obtain ⟨first, onward⟩ := read_front text
      obtain ⟨second, -⟩ := read_front onward
      rw [scanConnect, if_neg met, first, second, if_neg (by simp only [List.length_nil]; omega)]
      simp
  | cons byte front ih =>
      obtain ⟨-, onward⟩ := read_front text
      rw [List.length_cons] at enough
      rw [List.cons_append, occurs_cons, Bool.or_eq_false_iff] at unmarked
      obtain ⟨fuel, rfl⟩ : ∃ smaller, fuel = smaller + 1 := ⟨fuel - 1, by omega⟩
      have other : ¬(byte = 99 ∧ (front ++ 99 :: 61 :: rest).head? = some 61) := by
        have head : (front ++ 99 :: 61 :: rest).head? = (front ++ [99]).head? := by
          cases front <;> rfl
        rw [head]
        simpa using unmarked.1
      rw [scan_passes (fuel + 1) met text other (fun _ => by simp), List.length_cons]
      by_cases next : ((p + 1 : Nat) : Int) = stop
      · rw [scanConnect, if_pos next, if_pos (by push_cast at next ⊢; omega)]
      · have position : p + 1 + (front.length + 1) = p + 1 + 1 + front.length := by omega
        rw [ih (p + 1) onward unmarked.2 fuel (by omega) next, position]
        apply if_congr _ rfl rfl
        push_cast at next ⊢
        omega

/-! ## Copying the address -/

theorem copy_address_fits (sdp : Bytes) (room p : Nat) (copied text rest : Bytes)
    (source : sdp.drop p = text ++ 47 :: rest) (plain : 47 ∉ text) (fits : text.length < room) :
    copyAddress sdp room p copied = .address (copied ++ text) := by
  obtain ⟨room, rfl⟩ : ∃ smaller, room = smaller + 1 := ⟨room - 1, by omega⟩
  induction text generalizing room p copied with
  | nil =>
      obtain ⟨slash, -⟩ := read_front source
      rw [copyAddress, slash, List.append_nil]
      rfl
  | cons byte text ih =>
      rw [List.length_cons] at fits
      obtain ⟨first, onward⟩ := read_front source
      rw [List.mem_cons, not_or] at plain
      obtain ⟨different, plain⟩ := plain
      obtain ⟨room, rfl⟩ : ∃ smaller, room = smaller + 1 := ⟨room - 1, by omega⟩
      rw [copyAddress, first]
      dsimp only
      rw [if_neg (Ne.symm different), if_neg (by omega),
        ih (p + 1) (copied ++ [byte]) onward plain room (by omega), List.append_assoc,
        List.singleton_append]

theorem copy_address_too_long (sdp : Bytes) (room p : Nat) (copied text rest : Bytes)
    (source : sdp.drop p = text ++ rest) (plain : 47 ∉ text) (fills : room ≤ text.length) :
    copyAddress sdp room p copied = .tooLong := by
  induction room generalizing p copied text with
  | zero => rfl
  | succ room ih =>
      obtain - | ⟨byte, text⟩ := text
      · simp at fills
      · obtain ⟨first, onward⟩ := read_front source
        rw [List.mem_cons, not_or] at plain
        obtain ⟨different, plain⟩ := plain
        rw [copyAddress, first]
        dsimp only
        rw [if_neg (Ne.symm different), ih (p + 1) (copied ++ [byte]) text onward plain
          (by simpa using fills), ite_self]

end AoipCore.Sap
