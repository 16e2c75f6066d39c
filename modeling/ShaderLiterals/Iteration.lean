/-!
# Iteration

Steps that are taken until one of them returns a value, which need not ever come about.
-/

namespace ShaderLiterals

universe u v

variable {State : Type u} {Value : Type v}

/-- Steps on from a state until a step returns, if one ever does.  What a step gives is the value
that it returns, on the left, or the state from which to go on, on the right. -/
def iterate (step : State → Value ⊕ State) (state : State) : Option Value :=
  match step state with
  | .inl value => some value
  | .inr next => by apply iterate; exact step; exact next
partial_fixpoint

end ShaderLiterals
