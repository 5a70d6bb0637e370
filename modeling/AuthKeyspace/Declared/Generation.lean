import AuthKeyspace.Log.Record

/-!
# Schema generations

The declared tables carry a generation, a number that grows with every change of their shape. A node
that starts compares it with the generation stored in the cluster: it applies its definitions when
nothing is stored or what is stored is older, and leaves a newer generation alone with a warning,
because it runs older code than the node that wrote it.
-/

namespace AuthKeyspace.Declared

open AuthKeyspace.Log

/-- The generation of the declared tables. -/
def currentGeneration : Int := 1

/-- What each generation changed. -/
def generationHistory : List (Int × String) :=
  [(0, "original definition"),
   (1, "compression chunk length reduced to 16KiB, memtable flush period unset on all tables")]

/-- A stored generation that no node can have stored. -/
structure NegativeGeneration where
  stored : Int
deriving DecidableEq, Repr

/-- What is said of a generation below zero. -/
def NegativeGeneration.message (e : NegativeGeneration) : String :=
  Text.said do
    return "Stored generation must be non-negative, got " ++ (← Text.writeInteger e.stored) ++ "."

/-- The warning that a newer generation is stored. -/
def newerGenerationRecord (stored current : Int) : Record :=
  Severity.warning.recordOf do
    return "Stored auth schema generation " ++ (← Text.writeInteger stored) ++
      " is newer than this node's generation " ++ (← Text.writeInteger current) ++
      "; leaving definitions untouched."

/-- Must a node of generation `current` apply its definitions where `stored?` is stored? -/
def needsApplying (stored? : Option Int) (current : Int) : Logged NegativeGeneration Bool :=
  match stored? with
  | none => pure true
  | some stored =>
    if stored < 0 then .ofExcept (.error ⟨stored⟩)
    else if current < stored then ⟨[newerGenerationRecord stored current], .ok false⟩
    else pure (decide (stored < current))

end AuthKeyspace.Declared
