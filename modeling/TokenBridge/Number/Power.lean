/-!
# Powers

In this library a power of numbers is the one of the core library, also where a
module imports other instances: `2 ^ 64` is one term everywhere.
-/

namespace TokenBridge

@[default_instance 20000]
scoped instance (priority := high) powNat : Pow Nat Nat := instPowNat

end TokenBridge
