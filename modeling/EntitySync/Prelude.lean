/-!
# Arithmetic instances

The program computes on natural numbers with Lean's own power and zero. An algebra library
loaded beside it brings a monoid's power and a semiring's zero, which instance search would
otherwise find first. Within this library Lean's own instances come first, and every power
whose exponent is a numeral gives that exponent's type, so that each definition elaborates to one
and the same term whatever is loaded with it.
-/

namespace EntitySync

attribute [scoped instance (1100)] instPowNat
attribute [scoped instance (1100)] Zero.ofOfNat0

end EntitySync
