import Mathlib.Algebra.Order.Field.Rat
import Mathlib.Algebra.Order.Floor.Ring
import Mathlib.Data.Rat.Floor
import Mathlib.Tactic.Linarith
import Mathlib.Tactic.NormNum

/-!
# Shared domain types

Decimals are exact rationals: every quantity modelled stays far below the 28 significant digits
of the source's type. Instants count nanoseconds.
-/

namespace OxideArb

abbrev Decimal := ℚ

abbrev Price := Decimal

abbrev Shares := Decimal

abbrev Usd := Decimal

structure TokenId where
  raw : String
deriving DecidableEq, Repr

structure MarketId where
  raw : String
deriving DecidableEq, Repr

structure EventId where
  raw : String
deriving DecidableEq, Repr

structure PositionId where
  raw : Nat
deriving DecidableEq, Repr

structure TradeId where
  raw : Nat
deriving DecidableEq, Repr

structure OrderId where
  raw : String
deriving DecidableEq, Repr

structure ReservationId where
  raw : String
deriving DecidableEq, Repr

inductive TradeBusinessOutcome
  | success
  | miss
  | failed
deriving DecidableEq, Repr

inductive Side
  | buy
  | sell
deriving DecidableEq, Repr

inductive StalenessLevel
  | fresh
  | acceptable
  | stale
  | expired
deriving DecidableEq, Repr

inductive ExecutionMode
  | dryRun
  | paper
  | live
deriving DecidableEq, Repr

/-- An instant, in nanoseconds. -/
abbrev DateTime := Int

/-- A signed duration, in nanoseconds. -/
abbrev Duration := Int

namespace Duration

def seconds (n : Int) : Duration := n * 1000000000

/-- `num_seconds`: whole seconds, truncated towards zero. -/
def numSeconds (d : Duration) : Int := d.tdiv 1000000000

/-- `num_hours`: whole hours, truncated towards zero. -/
def numHours (d : Duration) : Int := (numSeconds d).tdiv 3600

end Duration

/-- `timestamp_millis().max(0)`; milliseconds are floored. -/
def timestampMillis (now : DateTime) : Nat := (now / 1000000).toNat

def i64Max : Int := 9223372036854775807

def i64Min : Int := -9223372036854775808

/-- A value kept in the range of `i64`. -/
def saturateI64 (v : Int) : Int := max i64Min (min i64Max v)

def u64Max : Nat := 18446744073709551615

def i32Max : Int := 2147483647

def u32Max : Nat := 4294967295

/-- `i32::try_from` of a `u32`, saturating. -/
def i32OfU32 (n : Nat) : Int := min n i32Max

/-- `u32::try_from` of an `i32`, with the value a negative number is read as. -/
def u32OfI32 (negative : Nat) (n : Int) : Nat := if n < 0 then negative else n.toNat

/-- `Decimal::round`: nearest integer, a tie going to the even neighbour. -/
def roundHalfEven (q : Decimal) : Int :=
  let f := ⌊q⌋
  let r := q - f
  if r < 1 / 2 then f
  else if 1 / 2 < r then f + 1
  else if f % 2 = 0 then f
  else f + 1

end OxideArb
