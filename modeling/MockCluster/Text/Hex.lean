/-!
Hexadecimal digits, in lower case.
-/

namespace MockCluster.Text

def hexDigit (n : Nat) : Char :=
  if n < 10 then Char.ofNat (48 + n) else Char.ofNat (87 + n)

end MockCluster.Text
