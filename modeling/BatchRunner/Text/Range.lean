/-
**Classes of characters as ranges.**

A class is given by the code points at which it is entered or left, in turn and in increasing order.

Main definitions:

* `Text.within` — whether a character is of a class.
-/

set_option autoImplicit false

namespace BatchRunner.Text

/-- Whether a character lies in the class that is entered and left at the given code points. -/
def within (bounds : List Nat) (c : Char) : Bool :=
  (bounds.takeWhile (· ≤ c.toNat)).length % 2 = 1

end BatchRunner.Text
