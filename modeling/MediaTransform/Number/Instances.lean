/-! # Powers and zeros

`b ^ n` on naturals and integers is the power of the core library in every module, and the sum of
no naturals its zero. A library of algebra brings second instances of these, by way of monoids and
semirings; the priorities below keep its import from changing what a term here is. -/

namespace MediaTransform

@[default_instance 20000]
instance (priority := high) powNat : Pow Nat Nat := instPowNat

@[default_instance 15000]
instance (priority := high) powInt : Pow Int Nat := instPowNat

instance (priority := high) zeroNat : Zero Nat := Zero.ofOfNat0

end MediaTransform
