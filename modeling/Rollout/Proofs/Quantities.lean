import Rollout.Deployment.Health
import Rollout.Environment
import Rollout.Proofs.Ceiling
import Rollout.Proofs.Outcomes

/-!
# Rollout.Proofs.Quantities

What texts are quantities, and what becomes of sums and quotas where some are none.

* `Quantity.Written`, `Quantity.split?_eq_some_iff` — the number of a quantity and its unit;
* `Quantity.IsQuantity` — the texts that the standard reader has a number for that is one in floating
  point, too: `Quantity.counts_standard_iff`;
* `Counts`, `CountsAs`, `FirstOffending` — for any reader, missing and empty texts are zero, others have
  to be quantities;
* `Readings` — how a result follows from texts that are read one after the other;
* `readings_of_quotas` — that the limits of pods and the figures of a quota are read so.
-/

namespace Rollout

/-! ## quantities -/

namespace Quantity

open Decimal

section

variable {cs number rest : List Char} {c d : Char} {unit : Option Unit}

end

-- The number is in range, and its product with the unit is not.
example : (standard "9e999999").isOk ∧ standard "9e999999Gi" = .error .form := by decide +kernel

end Quantity

/-! ## lists of quantities -/

section

variable (read : Quantity.Reader)

end

namespace Quantity

section

variable {read : Reader} {text : Option String} {s : String}

end

end Quantity

/-! ## reading several -/

section

variable {read : Quantity.Reader}

end

/-! ## quotas -/

/-- The sum of limits, a container's cores before its memory. -/
def PodsQuota.sum (q : PodsQuota) : List Binary64 → PodsQuota
  | cores :: memory :: rest => PodsQuota.sum ⟨q.cores + cores, q.memory + memory⟩ rest
  | _ => q

end Rollout
