/-!
# Words of 64 bits

The bounds of the numbers that fit into a word: `wordLimit` is above every unsigned one,
and `signPlace` is above every signed one and the magnitude of the least of them.
-/

namespace AssetExchange

/-- The number of values that a word has, two to the power of 64. -/
def wordLimit : Nat := 0x10000000000000000

/-- The place of the highest bit of a word, two to the power of 63. -/
def signPlace : Nat := 0x8000000000000000

abbrev IsSignedWord (value : Int) : Prop :=
  -(signPlace : Int) ≤ value ∧ value < signPlace

theorem isSignedWord_toInt (value : Int64) : IsSignedWord value.toInt :=
  ⟨value.le_toInt, value.toInt_lt⟩

end AssetExchange
