/-!
# Words

Numbers that fit 64 bits: the natural ones below `Word.limit`, and the whole ones from the
opposite of `Word.signedLimit` up to that limit.
-/

namespace Holdout
namespace Word

/-- The natural numbers of 64 bits lie below this one. -/
def limit : Nat := 0x10000000000000000

/-- The whole numbers of 64 bits lie below this one, and not below its opposite. -/
def signedLimit : Nat := 0x8000000000000000

/-- The natural numbers of 32 bits lie below this one. -/
def halfLimit : Nat := 0x100000000

/-- The whole number whose two's complement is a word. -/
def signed (word : Nat) : Int := if word < signedLimit then word else (word : Int) - limit

/-- The whole number of 32 bits with the same lowest bits. -/
def signedHalf (value : Int) : Int := Int.bmod value halfLimit

end Word
end Holdout
