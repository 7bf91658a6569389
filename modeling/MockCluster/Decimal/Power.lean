/-!
Powers of two, which bound words and space floats, and powers of ten, which space decimals.
-/

namespace MockCluster

abbrev twoTo (power : Nat) : Nat := Nat.pow 2 power

abbrev tenTo (power : Nat) : Nat := Nat.pow 10 power

end MockCluster
