import AoipCore.Host

/-!
# Nanosecond clock words (`timer.h`)
-/

namespace AoipCore.Timer

open AoipCore.Host

set_option autoImplicit false

abbrev NsTime := UInt64

def nsSec : NsTime := 1000000000
def nsMsec : NsTime := 1000000

def nsSub (ns1 ns2 : NsTime) : NsTime := ns1 - ns2

/-- `struct timestamp`, laid over the ten bytes of a PTP timestamp field. -/
structure Timestamp where
  secMsb : UInt16
  secLsb : UInt32
  ns : UInt32
  deriving DecidableEq, Repr

def timestampAt (packed : Bytes) (offset : Nat) : Timestamp where
  secMsb := field16 packed offset
  secLsb := field32 packed (offset + 2)
  ns := field32 packed (offset + 6)

def tstampToNs (ts : Timestamp) : NsTime :=
  let sec := ((ntohs ts.secMsb).toUInt64 <<< 4) + (ntohl ts.secLsb).toUInt64
  sec * nsSec + (ntohl ts.ns).toUInt64

end AoipCore.Timer
