import TagRules.Table

/-
  What a pass over tables did, in numbers.
-/

namespace TagRules

/-- How many tables were reloaded, were as before, and failed. -/
structure ReloadTally where
  reloaded : Nat
  unchanged : Nat
  failed : Nat
  deriving DecidableEq, Repr, Inhabited

namespace ReloadTally

def empty : ReloadTally := ⟨0, 0, 0⟩

/-- One more table.  Rules given with the table are always as before. -/
def record (tally : ReloadTally) : Except Error Outcome → ReloadTally
  | .ok (.reloaded _ _) => { tally with reloaded := tally.reloaded + 1 }
  | .ok .unchanged | .ok .static => { tally with unchanged := tally.unchanged + 1 }
  | .error _ => { tally with failed := tally.failed + 1 }

def merge (x y : ReloadTally) : ReloadTally :=
  ⟨x.reloaded + y.reloaded, x.unchanged + y.unchanged, x.failed + y.failed⟩

def total (tally : ReloadTally) : Nat :=
  tally.reloaded + tally.unchanged + tally.failed

end ReloadTally

end TagRules
