import AoipCore.Host
import AoipCore.Library.DecimalText

/-!
# Dotted-decimal addresses

`inet_ntoa` and `inet_pton` of the C library, for `AF_INET`. An address is the
word in `struct in_addr`, whose bytes in memory are the four octets in order.
The reader accepts one to three digits per octet without a leading zero, as
the library does.
-/

namespace AoipCore.Inet

open ByteBuffer DecimalText AoipCore.Host

set_option autoImplicit false

def octet (addr : UInt32) (index : Nat) : UInt8 := field8 (littleBytes 4 addr.toNat) index

def octetText (addr : UInt32) (index : Nat) : Bytes := decimal (octet addr index).toNat

def inetNtoa (addr : UInt32) : Bytes :=
  octetText addr 0 ++ 46 :: (octetText addr 1 ++ 46 :: (octetText addr 2 ++ 46 :: octetText addr 3))

/-- The octets read so far and the value of the one being read, once it has a
digit. -/
structure PtonState where
  octets : Bytes
  current : Option Nat
  deriving DecidableEq, Repr

def octetStep (current : Option Nat) (byte : UInt8) : Option (Option Nat) :=
  match current with
  | none => some (some (byte.toNat - 48))
  | some value =>
      if value = 0 ∨ value * 10 + (byte.toNat - 48) > 255 then none
      else some (some (value * 10 + (byte.toNat - 48)))

def isDigitByte (byte : UInt8) : Bool := decide (48 ≤ byte.toNat ∧ byte.toNat ≤ 57)

def ptonStep (s : PtonState) (byte : UInt8) : Option PtonState :=
  if isDigitByte byte then
    if s.current = none ∧ 4 ≤ s.octets.length then none
    else (octetStep s.current byte).map fun current => { s with current := current }
  else if byte = 46 then
    match s.current with
    | none => none
    | some value =>
        if s.octets.length = 3 then none
        else some { octets := s.octets ++ [UInt8.ofNat value], current := none }
  else none

/-- `none` is a return value of 0; otherwise 1 and the address. -/
def inetPton (text : Bytes) : Option UInt32 :=
  match text.foldlM ptonStep { octets := [], current := none } with
  | some { octets := octets, current := some value } =>
      if octets.length = 3 then
        some (UInt32.ofNat (littleValue (octets ++ [UInt8.ofNat value])))
      else none
  | _ => none

/-! ## The reader inverts the printer -/

theorem octet_text_digits (addr : UInt32) (index : Nat) :
    ∀ byte ∈ octetText addr index, isDigitByte byte = true := by
  intro byte member
  exact decide_eq_true (decimal_digits _ byte member)

theorem digits_fold {text octets : Bytes} (current : Option Nat)
    (digits : ∀ byte ∈ text, isDigitByte byte = true) (short : octets.length < 4) :
    text.foldlM ptonStep { octets := octets, current := current } =
      (text.foldlM octetStep current).map fun value => { octets := octets, current := value } := by
  induction text generalizing current with
  | nil => rfl
  | cons byte text ih =>
      have step : ptonStep { octets := octets, current := current } byte =
          (octetStep current byte).map fun value => { octets := octets, current := value } := by
        rw [ptonStep, if_pos (digits byte List.mem_cons_self), if_neg (by simp; omega)]
      rw [List.foldlM_cons, List.foldlM_cons, step]
      cases octetStep current byte with
      | none => rfl
      | some value => exact ih value fun other member => digits other (List.mem_cons_of_mem _ member)

theorem octet_read (value : Fin 256) :
    (decimal value).foldlM octetStep none = some (some value.val) := by
  revert value
  decide +kernel

theorem octet_text_fold (addr : UInt32) (index : Nat) (octets : Bytes)
    (short : octets.length < 4) :
    (octetText addr index).foldlM ptonStep { octets := octets, current := none } =
      some { octets := octets, current := some (octet addr index).toNat } := by
  have read := octet_read ⟨(octet addr index).toNat, (octet addr index).toNat_lt⟩
  rw [digits_fold none (octet_text_digits addr index) short, octetText, read]
  rfl

theorem octet_dot_fold (addr : UInt32) (index : Nat) (octets rest : Bytes)
    (short : octets.length < 3) :
    (octetText addr index ++ 46 :: rest).foldlM ptonStep { octets := octets, current := none } =
      rest.foldlM ptonStep { octets := octets ++ [octet addr index], current := none } := by
  have step : ptonStep { octets := octets, current := some (octet addr index).toNat } 46 =
      some { octets := octets ++ [octet addr index], current := none } := by
    rw [ptonStep, if_neg (by decide), if_pos rfl]
    dsimp only
    rw [if_neg (by omega), UInt8.ofNat_toNat]
  rw [List.foldlM_append, octet_text_fold _ _ _ (by omega), Option.bind_eq_bind,
    Option.bind_some, List.foldlM_cons, step, Option.bind_eq_bind, Option.bind_some]

theorem octets_decode (addr : UInt32) :
    UInt32.ofNat (littleValue [octet addr 0, octet addr 1, octet addr 2, octet addr 3]) = addr := by
  have bounded : addr.toNat < 256 ^ 4 := addr.toNat_lt
  have bytes : [octet addr 0, octet addr 1, octet addr 2, octet addr 3] =
      littleBytes 4 addr.toNat := rfl
  rw [bytes, little_value_bytes, Nat.mod_eq_of_lt bounded, UInt32.ofNat_toNat]

theorem inet_pton_ntoa (addr : UInt32) : inetPton (inetNtoa addr) = some addr := by
  have fold : (inetNtoa addr).foldlM ptonStep { octets := [], current := none } =
      some { octets := [octet addr 0, octet addr 1, octet addr 2]
             current := some (octet addr 3).toNat } := by
    unfold inetNtoa
    rw [octet_dot_fold _ _ _ _ (by simp), octet_dot_fold _ _ _ _ (by simp),
      octet_dot_fold _ _ _ _ (by simp), octet_text_fold _ _ _ (by simp)]
    rfl
  rw [inetPton, fold]
  dsimp only
  rw [if_pos (by rfl), UInt8.ofNat_toNat]
  exact congrArg some (octets_decode addr)

/-! ## What the text consists of -/

theorem inet_ntoa_bytes (addr : UInt32) :
    ∀ byte ∈ inetNtoa addr, byte = 46 ∨ IsDigit byte := by
  have digits : ∀ index, ∀ byte ∈ octetText addr index, byte = 46 ∨ IsDigit byte :=
    fun index byte member => .inr (decimal_digits _ byte member)
  intro byte member
  simp only [inetNtoa, List.mem_append, List.mem_cons] at member
  rcases member with first | dot | second | dot | third | dot | fourth
  · exact digits 0 byte first
  · exact .inl dot
  · exact digits 1 byte second
  · exact .inl dot
  · exact digits 2 byte third
  · exact .inl dot
  · exact digits 3 byte fourth

theorem inet_ntoa_length (addr : UInt32) : (inetNtoa addr).length ≤ 15 := by
  have short : ∀ index, (octetText addr index).length ≤ 3 := by
    intro index
    have bounded : (octet addr index).toNat < 256 := (octet addr index).toNat_lt
    exact decimal_length_le (by decide) (by omega)
  have first := short 0
  have second := short 1
  have third := short 2
  have fourth := short 3
  simp only [inetNtoa, List.length_append, List.length_cons]
  omega

end AoipCore.Inet
