/-!
# Powers of two and ten

Numbers in binary and decimal notation are scaled by these powers.
-/

namespace SpendingLedger

/-- The `n`-th power of two. -/
def powerOfTwo (n : Nat) : Nat := Nat.pow 2 n

/-- The `n`-th power of ten. -/
def powerOfTen (n : Nat) : Nat := Nat.pow 10 n

theorem powerOfTwo_pos (n : Nat) : 0 < powerOfTwo n := Nat.two_pow_pos n

theorem powerOfTen_pos (n : Nat) : 0 < powerOfTen n := Nat.pow_pos (by decide : 0 < 10)

theorem powerOfTwo_succ (n : Nat) : powerOfTwo (n + 1) = 2 * powerOfTwo n := Nat.mul_comm ..

theorem powerOfTen_succ (n : Nat) : powerOfTen (n + 1) = 10 * powerOfTen n := Nat.mul_comm ..

end SpendingLedger
