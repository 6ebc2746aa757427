/-!
# Machine words

Bounds of whole numbers that fit in 64 bits.
-/

namespace Roster.Word

/-- How many words of 64 bits there are: every unsigned word is below. -/
abbrev count : Nat := 18446744073709551616

/-- Half the number of words: every signed word is below, and none is below its negative. -/
abbrev half : Nat := 9223372036854775808

end Roster.Word
