/-!
Signed machine integers of 64 bits, as a range of integers.
-/

namespace Guildhall

def wordBound : Int := Nat.pow 2 63

def fitsWord (n : Int) : Bool := -wordBound ≤ n && n < wordBound

end Guildhall
