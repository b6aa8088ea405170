/-!
# Powers

A power of a whole number is that of the language, also beside a library that
brings one of its own.
-/

namespace ClusterOperator

@[default_instance 20000]
instance (priority := 20000) natPower {α : Type} [NatPow α] : Pow α Nat := instPowNat

end ClusterOperator
