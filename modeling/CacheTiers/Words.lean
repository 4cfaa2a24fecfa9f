namespace CacheTiers

def wordCount (bits : Nat) : Nat := Nat.pow 2 bits

def isWord (bits : Nat) (n : Int) : Bool := decide (0 ≤ n ∧ n < (wordCount bits : Int))

def isSignedWord (bits : Nat) (n : Int) : Bool :=
  decide (-(wordCount (bits - 1) : Int) ≤ n ∧ n < (wordCount (bits - 1) : Int))

def lowestBits (bits : Nat) (n : Int) : Int := n % (wordCount bits : Int)

end CacheTiers
