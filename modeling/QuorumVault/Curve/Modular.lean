/-
Arithmetic modulo a prime.
-/
namespace QuorumVault.Modular

def pow (m base exponent : Nat) : Nat :=
  if exponent = 0 then 1 % m
  else
    let half := pow m base (exponent / 2)
    let square := half * half % m
    if exponent % 2 = 1 then square * base % m else square
termination_by exponent
decreasing_by omega

/-- The difference modulo `m` of two remainders. -/
def sub (m a b : Nat) : Nat :=
  (a + (m - b % m)) % m

/-- Follows the remainders of two numbers down to zero; the last factor belongs to their greatest
common divisor. -/
def lastFactor (r₀ r₁ : Nat) (t₀ t₁ : Int) : Int :=
  if r₁ = 0 then t₀ else lastFactor r₁ (r₀ % r₁) t₁ (t₀ - (r₀ / r₁ : Nat) * t₁)
termination_by r₁
decreasing_by exact Nat.mod_lt _ (by omega)

/-- The inverse modulo `m` of a number prime to it. -/
def inverse (m a : Nat) : Nat :=
  (lastFactor m (a % m) 0 1 % (m : Int)).toNat

def div (m a b : Nat) : Nat :=
  a * inverse m b % m

end QuorumVault.Modular
