/-
The `errno` values the sources return, negated.

The C functions return a negative `int` for a failure.  Here a fallible function
returns an `Except Errno`, and where a caller mixes the result with other integers
— the TLS backend hands mbedTLS codes through the same `int` — `Errno.neg` is the
number it sees.
-/
import Mathlib.Tactic.Common

namespace Gxfp

/-- The error numbers named in the sources. -/
inductive Errno
  | perm | noent | intr | io | again | nomem | fault | busy | nodev | inval | nospc | pipe
  | nodata | badmsg | overflow | msgsize | nobufs | timedout | already | hostdown | canceled
  deriving DecidableEq, Repr

/-- The Linux number of each. -/
def Errno.code : Errno → Nat
  | .perm => 1
  | .noent => 2
  | .intr => 4
  | .io => 5
  | .again => 11
  | .nomem => 12
  | .fault => 14
  | .busy => 16
  | .nodev => 19
  | .inval => 22
  | .nospc => 28
  | .pipe => 32
  | .nodata => 61
  | .badmsg => 74
  | .overflow => 75
  | .msgsize => 90
  | .nobufs => 105
  | .timedout => 110
  | .already => 114
  | .hostdown => 112
  | .canceled => 125

/-- What the C function returns: `-EIO` and its like. -/
def Errno.neg (e : Errno) : Int := -(e.code : Int)

end Gxfp
