/-!
# Intervals — whole seconds and nanoseconds

An interval is normalised: its nanoseconds stay below a second. Its text names
the largest unit that gives a whole part and writes the rest as a fraction
without trailing zeros: `2.5s`, `1ms`, `1.5µs`, `999ns`, `0ns`.
-/

namespace Coprocessor

-- powers are those of the core library, whatever else is imported
attribute [local instance (high)] instPowNat

/-- A non-negative time span. -/
structure Interval where
  seconds : UInt64
  nanos : Fin 1000000000
deriving DecidableEq

namespace Interval

/-- No time at all. -/
def zero : Interval := ⟨0, 0⟩

/-- One second. -/
def second : Interval := ⟨1, 0⟩

/-- One millisecond. -/
def millisecond : Interval := ⟨0, 1000000⟩

/-- An interval from seconds and any number of nanoseconds, unless the carry
    overflows the seconds. -/
def ofParts? (seconds : UInt64) (nanos : UInt32) : Option Interval :=
  let total := seconds.toNat + nanos.toNat / 1000000000
  if total < 2 ^ (64 : Nat) then
    some ⟨UInt64.ofNat total, ⟨nanos.toNat % 1000000000, Nat.mod_lt _ (by decide)⟩⟩
  else none

/-- The interval in nanoseconds. -/
def toNanos (d : Interval) : Nat := d.seconds.toNat * 1000000000 + d.nanos.val

/-- `part / 10 ^ places` as the digits after a point, or nothing. -/
def fractionText (places part : Nat) : List Char :=
  let digits := ((Nat.toDigits 10 part).leftpad places '0').reverse.dropWhile (· = '0')
  if part = 0 then [] else '.' :: digits.reverse

/-- A whole part, a fraction and a unit. -/
def inUnit (whole places part : Nat) (unit : String) : String :=
  String.ofList (Nat.toDigits 10 whole ++ fractionText places part) ++ unit

/-- The text of an interval in its largest fitting unit. -/
def text (d : Interval) : String :=
  let n := d.nanos.val
  if 0 < d.seconds then inUnit d.seconds.toNat 9 n "s"
  else if 1000000 ≤ n then inUnit (n / 1000000) 6 (n % 1000000) "ms"
  else if 1000 ≤ n then inUnit (n / 1000) 3 (n % 1000) "µs"
  else inUnit n 0 0 "ns"

end Interval

end Coprocessor
