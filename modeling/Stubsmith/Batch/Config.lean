/-!
# The bounds of a batch

How many workers each stage of a batch has and how much fits between two stages.

## Main definitions

* `Config` — the bounds.
* `Config.normalized` — the bounds that a batch really runs with.
-/

namespace Stubsmith.Batch

/-- The bounds of a batch. -/
structure Config where
  /-- Sources read at a time. -/
  readers : Nat
  /-- Sources turned into stubs at a time. -/
  synthesizers : Nat
  /-- Stubs written at a time. -/
  writers : Nat
  /-- What each queue between two stages can hold. -/
  queueCapacity : Nat
  deriving DecidableEq, Repr

namespace Config

/-- The bounds of a batch that asks for none, on a machine with so many processors. -/
def standard (processors : Nat) : Config := ⟨1, processors, 1, 16⟩

/-- The bounds that a batch runs with: every one at least one, and no fewer synthesizers than
processors. -/
def normalized (config : Config) (processors : Nat) : Config where
  readers := max config.readers 1
  synthesizers := max config.synthesizers (max processors 1)
  writers := max config.writers 1
  queueCapacity := max config.queueCapacity 1

end Config

end Stubsmith.Batch
