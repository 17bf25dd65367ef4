/-!
Binary floating point by exact arithmetic. A finite number is a sign and the rank of its magnitude
among all finite magnitudes in ascending order, which is also its word without the sign bit.
-/

namespace PatternDispatch

-- Powers of numbers are the core library's, also where the algebraic hierarchy brings its own.
attribute [local instance (high)] instPowNat

/-- The number of times `base` scaled by a power of the base, exactly. -/
def scaled (base n : Nat) (exponent : Int) : Rat :=
  if 0 ≤ exponent then (n * base ^ exponent.toNat : Nat) else mkRat n (base ^ (-exponent).toNat)

/-- The widths of the fields of a binary interchange format. -/
structure Format where
  fractionBits : Nat
  exponentBits : Nat

namespace Format

def binary32 : Format := ⟨23, 8⟩

def binary64 : Format := ⟨52, 11⟩

/-- The exponent of the last bit of a subnormal number. -/
def lowest (f : Format) : Int := 2 - 2 ^ (f.exponentBits - 1) - f.fractionBits

/-- How many finite magnitudes there are, zero included. -/
def magnitudes (f : Format) : Nat := (2 ^ f.exponentBits - 1) * 2 ^ f.fractionBits

def signPlace (f : Format) : Nat := 2 ^ (f.exponentBits + f.fractionBits)

end Format

inductive Binary (f : Format) where
  | nan
  | infinity (negative : Bool)
  | finite (negative : Bool) (rank : Fin f.magnitudes)
deriving DecidableEq, Repr

abbrev Binary64 := Binary .binary64

abbrev Binary32 := Binary .binary32

namespace Binary

variable {f : Format}

/-- The word of a number; all NaNs share the quiet one. -/
def toBits : Binary f → Nat
  | nan => f.magnitudes + 2 ^ (f.fractionBits - 1)
  | infinity negative => (if negative then f.signPlace else 0) + f.magnitudes
  | finite negative rank => (if negative then f.signPlace else 0) + rank

def ofBits (f : Format) (word : Nat) : Binary f :=
  let negative := f.signPlace ≤ word
  let rank := word % f.signPlace
  if bound : rank < f.magnitudes then finite negative ⟨rank, bound⟩
  else if rank = f.magnitudes then infinity negative
  else nan

def significand (f : Format) (rank : Nat) : Nat :=
  if rank < 2 ^ f.fractionBits then rank else 2 ^ f.fractionBits + rank % 2 ^ f.fractionBits

def exponent (f : Format) (rank : Nat) : Int :=
  f.lowest + (rank / 2 ^ f.fractionBits - 1 : Nat)

def magnitude (f : Format) (rank : Nat) : Rat := scaled 2 (significand f rank) (exponent f rank)

/-- The rational value of a finite number. -/
def toRat? : Binary f → Option Rat
  | finite false rank => some (magnitude f rank)
  | finite true rank => some (-magnitude f rank)
  | _ => none

/-- The integer nearest to a quotient; a half goes to the even neighbour. -/
def nearestQuotient (num den : Nat) : Nat :=
  let quotient := num / den
  let remainder := num % den
  if 2 * remainder < den then quotient
  else if den < 2 * remainder then quotient + 1
  else if quotient % 2 = 0 then quotient
  else quotient + 1

/-- The exponent of the greatest power of two that does not exceed a positive quotient. -/
def floorLog (num den : Nat) : Int :=
  let estimate : Int := num.log2 - den.log2
  if den * 2 ^ estimate.toNat ≤ num * 2 ^ (-estimate).toNat then estimate else estimate - 1

/-- The number nearest to a magnitude with the given sign. Ranks continue across exponents, so a
significand that rounds up to the next power of two needs no repair. -/
def round (f : Format) (negative : Bool) (size : Rat) : Binary f :=
  let num := size.num.natAbs
  let place := if num = 0 then f.lowest else max f.lowest (floorLog num size.den - f.fractionBits)
  let significand := nearestQuotient (num * 2 ^ (-place).toNat) (size.den * 2 ^ place.toNat)
  let rank := (place - f.lowest).toNat * 2 ^ f.fractionBits + significand
  if bound : rank < f.magnitudes then finite negative ⟨rank, bound⟩ else infinity negative

def ofRat (f : Format) (q : Rat) : Binary f := round f (decide (q < 0)) q

def ofInt (f : Format) (n : Int) : Binary f := ofRat f n

/-- The nearest number of another format; infinities and NaN keep their kind. -/
def convert (target : Format) : Binary f → Binary target
  | nan => nan
  | infinity negative => infinity negative
  | finite negative rank => round target negative (magnitude f rank)

def isInfinite : Binary f → Bool
  | infinity _ => true
  | _ => false

def isNegative : Binary f → Bool
  | nan => false
  | infinity negative | finite negative _ => negative

/-- The sum, rounded once. A sum of zero is negative only if both numbers are. -/
def add (x y : Binary f) : Binary f :=
  match x, y with
  | infinity a, infinity b => if a = b then infinity a else nan
  | nan, _ | _, nan => nan
  | infinity a, _ | _, infinity a => infinity a
  | x, y =>
    let sum := x.toRat?.getD 0 + y.toRat?.getD 0
    round f (if sum = 0 then x.isNegative && y.isNegative else decide (sum < 0)) sum

/-- Equality of values: the two zeros are equal and NaN differs from everything. -/
def sameValue : Binary f → Binary f → Bool
  | infinity a, infinity b => a == b
  | finite a m, finite b n => m == n && (a == b || m.val == 0)
  | _, _ => false

/-- The number with a subnormal magnitude replaced by zero. -/
def flushed : Binary f → Binary f
  | finite negative rank =>
    if rank.val < 2 ^ f.fractionBits then ofBits f (if negative then f.signPlace else 0)
    else finite negative rank
  | x => x

def isZero : Binary f → Bool
  | finite _ rank => rank.val == 0
  | _ => false

/-- Whether a number lies beyond zero on the negative or on the positive side. -/
def isBeyondZero (negative : Bool) (x : Binary f) : Bool :=
  x.isNegative == negative && !x.isZero && x != nan

/-- The number without its sign. -/
def unsigned : Binary f → Binary f
  | nan => nan
  | infinity _ => infinity false
  | finite _ rank => finite false rank

end Binary

end PatternDispatch
