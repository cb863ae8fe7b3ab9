/-
# Carry-less multiplication

The three carry-less multiplications are slices of the product of their operands as polynomials
over GF(2).  All else about them follows from this.
-/
import SailRiscv.Lib.Gf2Poly
import SailRiscv.Insts.Bext

namespace SailRiscv

open Platform Gf2Poly Polynomial

/-! ## The loops -/

variable [Platform]

end SailRiscv
