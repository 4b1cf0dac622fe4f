import SpendingLedger.Number.Power

/-!
# Binary floating-point numbers

The numbers of the format binary64 with their exact values.  Every finite number is a whole number
of *units* of `2 ^ -1074`, so a magnitude is a natural number, sums and comparisons are those of
integers, and there is one place where a result is rounded: `roundUnits` brings a quotient to the
nearest number of at most 53 significant bits, and a quotient half-way between two of them to the
one whose last bit is zero.

## Main definitions

* `Binary64` — a number, an infinity or no number at all; zero has two signs.
* `Binary64.ofRatio`, `Binary64.ofInt?` — the number nearest to a quotient or an integer.
* `Binary64.add`, `Binary64.neg`, `Binary64.abs` — arithmetic.
* `Binary64.compare?` — the order of two numbers, none when either is no number.
-/

namespace SpendingLedger

/-- The number one in units. -/
def Binary64.one : Nat := powerOfTwo 1074

/-- The magnitude `2 ^ 1024` in units, the first that is too large. -/
def Binary64.bound : Nat := powerOfTwo 2098

/-- Whether `units` is the magnitude of a finite number: it has at most 53 significant bits and
lies below `2 ^ 1024`. -/
def Binary64.Representable (units : Nat) : Prop :=
  units % powerOfTwo (units.log2 - 52) = 0 ∧ units < Binary64.bound

instance (units : Nat) : Decidable (Binary64.Representable units) :=
  inferInstanceAs (Decidable (_ ∧ _))

/-- A binary64 datum. -/
inductive Binary64
  /-- No number, the result of an undefined operation. -/
  | nan
  /-- An infinity. -/
  | infinite (negative : Bool)
  /-- A finite number, as a sign and a magnitude in units of `2 ^ -1074`. -/
  | finite (negative : Bool) (units : Nat) (representable : Binary64.Representable units)
  deriving DecidableEq

namespace Binary64

theorem one_pos : 0 < one := powerOfTwo_pos 1074

theorem bound_pos : 0 < bound := powerOfTwo_pos 2098

theorem representable_zero : Representable 0 := ⟨Nat.zero_mod _, bound_pos⟩

/-- The zero without a minus sign. -/
def zero : Binary64 := .finite false 0 representable_zero

instance : Inhabited Binary64 := ⟨zero⟩

/-! ### Rounding -/

/-- The integer nearest to `num / den`; a half goes to the even neighbour. -/
def roundDiv (num den : Nat) : Nat :=
  let q := num / den
  let r := num % den
  -- in a tie the odd one of the two neighbours is left
  if 2 * r < den then q else if den < 2 * r then q + 1 else q + q % 2

/-- The natural number of at most 53 significant bits nearest to `num / den`; a half goes to the
neighbour whose last bit is zero. -/
def roundUnits (num den : Nat) : Nat :=
  -- the distance of neighbours at this size; truncated subtraction keeps it at one unit below
  let step := powerOfTwo ((num / den).log2 - 52)
  roundDiv num (den * step) * step

/-- The number of the given sign and magnitude, an infinity when the magnitude is too large. -/
def ofUnits (negative : Bool) (units : Nat) : Binary64 :=
  if h : Representable units then .finite negative units h else .infinite negative

/-- The number nearest to the quotient `num / den`, under the given sign. -/
def ofRatio (negative : Bool) (num den : Nat) : Binary64 :=
  ofUnits negative (roundUnits (num * one) den)

/-- A number that is not infinite. -/
def bounded? : Binary64 → Option Binary64
  | .infinite _ => none
  | x => some x

/-- The number nearest to `n`, none when that would be infinite. -/
def ofInt? (n : Int) : Option Binary64 := (ofRatio (n < 0) n.natAbs 1).bounded?

/-! ### Signs and classes -/

/-- Whether `x` is a finite number. -/
def isFinite : Binary64 → Bool
  | .finite .. => true
  | _ => false

/-- Whether `x` is no number. -/
def isNaN : Binary64 → Bool
  | .nan => true
  | _ => false

/-- `x` with the other sign. -/
def neg : Binary64 → Binary64
  | .nan => .nan
  | .infinite s => .infinite !s
  | .finite s u h => .finite (!s) u h

/-- `x` without a minus sign. -/
def abs : Binary64 → Binary64
  | .nan => .nan
  | .infinite _ => .infinite false
  | .finite _ u h => .finite false u h

/-! ### Order -/

/-- The integer of magnitude `units` and the given sign. -/
def signed (negative : Bool) (units : Nat) : Int := if negative then -units else units

/-- How two numbers compare; nothing compares with what is no number.  The zeros are equal. -/
def compare? : Binary64 → Binary64 → Option Ordering
  | .nan, _ => none
  | _, .nan => none
  | .infinite s, .infinite t => some (if s = t then .eq else if s then .lt else .gt)
  | .infinite s, .finite .. => some (if s then .lt else .gt)
  | .finite .., .infinite t => some (if t then .gt else .lt)
  | .finite s u _, .finite t v _ => some (compare (signed s u) (signed t v))

/-- Whether `x` is less than `y`. -/
def lt (x y : Binary64) : Bool := compare? x y == some .lt

/-- Whether `x` is at most `y`. -/
def le (x y : Binary64) : Bool :=
  match compare? x y with
  | some .lt | some .eq => true
  | _ => false

/-- Whether `x` and `y` are the same number; nothing equals what is no number. -/
def numEq (x y : Binary64) : Bool := compare? x y == some .eq

/-! ### Addition -/

/-- The number nearest to an integer of units; a sum of zero takes the sign `zeroSign`. -/
def ofSignedUnits (zeroSign : Bool) (n : Int) : Binary64 :=
  if n = 0 then ofUnits zeroSign 0 else ofUnits (n < 0) (roundUnits n.natAbs 1)

/-- The sum of two numbers.  A sum of zero is negative only when both numbers are. -/
def add : Binary64 → Binary64 → Binary64
  | .nan, _ => .nan
  | _, .nan => .nan
  | .infinite s, .infinite t => if s = t then .infinite s else .nan
  | .infinite s, .finite .. => .infinite s
  | .finite .., .infinite t => .infinite t
  | .finite s u _, .finite t v _ => ofSignedUnits (s && t) (signed s u + signed t v)

instance : Neg Binary64 := ⟨neg⟩

instance : Add Binary64 := ⟨add⟩

@[simp] theorem neg_neg (x : Binary64) : x.neg.neg = x := by
  cases x <;> simp [neg]

@[simp] theorem abs_neg (x : Binary64) : x.neg.abs = x.abs := by
  cases x <;> rfl

@[simp] theorem abs_abs (x : Binary64) : x.abs.abs = x.abs := by
  cases x <;> rfl

@[simp] theorem isFinite_neg (x : Binary64) : x.neg.isFinite = x.isFinite := by
  cases x <;> rfl

@[simp] theorem isFinite_abs (x : Binary64) : x.abs.isFinite = x.isFinite := by
  cases x <;> rfl

theorem ofUnits_of_representable {negative : Bool} {units : Nat} (h : Representable units) :
    ofUnits negative units = .finite negative units h := by
  simp [ofUnits, h]

end Binary64

end SpendingLedger
