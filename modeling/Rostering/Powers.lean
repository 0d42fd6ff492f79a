/-!
# Powers — powers of two and of ten, and the bounds of a word

The numbers at which a column, a coefficient or a bound stops fitting a word are written with the
same few names everywhere. The powers are those of natural numbers; a bound with a sign is a whole
number of its own.
-/

namespace Rostering

def twoTo (n : Nat) : Nat := Nat.pow 2 n

def tenTo (n : Nat) : Nat := Nat.pow 10 n

theorem twoTo_pos (n : Nat) : 0 < twoTo n := Nat.pow_pos (by decide)

/-- The first whole number above the signed words of 64 bits. -/
def wordLimit : Int := Int.ofNat (twoTo 63)

def leastWord : Int := -wordLimit

/-- The first whole number above the words of 64 bits without a sign. -/
def naturalLimit : Int := Int.ofNat (twoTo 64)

end Rostering
