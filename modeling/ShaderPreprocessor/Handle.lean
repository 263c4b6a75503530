/-
Handles: numbers that stand for stored shaders, and the supply they are issued from. Every handle
is issued once, in the order 0, 1, 2, ...; holding one does not mean that its shader is still
stored.
-/
namespace ShaderPreprocessor

/-- A reference to a stored shader. -/
structure Handle where
  /-- The number of the handle. -/
  value : Int
  deriving DecidableEq, Repr

namespace Handle

/-- A handle as messages show it. -/
def toText (h : Handle) : String := "ShaderHandle(" ++ toString h.value ++ ")"

/-- Handles are ordered by their numbers. -/
instance : LE Handle := ⟨fun a b => a.value ≤ b.value⟩

/-- Handles are ordered by their numbers. -/
instance : LT Handle := ⟨fun a b => a.value < b.value⟩

instance (a b : Handle) : Decidable (a ≤ b) := inferInstanceAs (Decidable (a.value ≤ b.value))

instance (a b : Handle) : Decidable (a < b) := inferInstanceAs (Decidable (a.value < b.value))

end Handle

/-- The supply of handles. -/
structure Supply where
  /-- The number of the next handle, which is how many were issued before. -/
  next : Nat
  deriving DecidableEq, Repr

namespace Supply

/-- The supply that has issued nothing. -/
def fresh : Supply := ⟨0⟩

/-- The handle that is issued next. -/
def handle (s : Supply) : Handle := ⟨s.next⟩

/-- The supply after one handle more. -/
def advance (s : Supply) : Supply := ⟨s.next + 1⟩

end Supply

end ShaderPreprocessor
