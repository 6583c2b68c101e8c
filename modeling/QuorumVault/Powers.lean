/-
Powers of numbers.

Libraries of algebra bring instances of their own under which powers of numbers can be
read.  A power here is the core library's, whatever else is at hand.
-/
namespace QuorumVault

attribute [default_instance 20000] instPowNat

/-- The power of one number to another. -/
@[default_instance 20001]
instance (priority := 2000) powNat : Pow Nat Nat :=
  instPowNat

end QuorumVault
