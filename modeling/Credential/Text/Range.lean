/-! Character properties of the Unicode standard, given as inclusive ranges of code points. -/

namespace Credential.Text

abbrev Ranges := List (Nat × Nat)

def Ranges.holds (ranges : Ranges) (point : Nat) : Bool :=
  ranges.any fun (first, last) => first ≤ point && point ≤ last

end Credential.Text
