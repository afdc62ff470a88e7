/-!
# Sets of characters given by ranges

The classes of the Unicode standard are written as lists of code point ranges.
-/

set_option autoImplicit false

namespace DocBraces.Text

abbrev Ranges := List (Nat × Nat)

namespace Ranges

def holds (rs : Ranges) (n : Nat) : Bool := rs.any fun r => r.1 ≤ n && n ≤ r.2

end Ranges

end DocBraces.Text
