import EscapeClause.Handler
import EscapeClause.OrderedMap

/-!
# Registries

A registry binds keywords to handlers, in insertion order. `Registry.standard` has the keywords
that a driver of SQLite understands. `Registry.assemble` builds a registry from four sources of
rising priority: the standard one, handlers loaded or supplied by the caller, keywords to echo and
keywords to drop. A keyword keeps the place where the first source put it.
-/

namespace EscapeClause

/-- Handlers by keyword, in insertion order. -/
abbrev Registry (σ : Type) := OrderedMap Text (Handler σ)

structure RegistrySources (σ : Type) where
  defaults : Bool := true
  extra : Registry σ := ∅
  /-- Keywords echoed together with their arguments. -/
  echoed : List Text := []
  /-- Keywords replaced by their arguments alone. -/
  dropped : List Text := []

namespace Registry

variable {σ : Type}

def standardEntries : List (Text × Handler σ) :=
  [("limit".toList, .echo true), ("escape".toList, .echo true), ("fn".toList, .scalarFunction),
   ("d".toList, .echo false), ("t".toList, .echo false), ("ts".toList, .echo false),
   ("oj".toList, .echo false)]

/-- The registry of the keywords that a driver of SQLite understands. -/
def standard : Registry σ := OrderedMap.ofList standardEntries

theorem entries_standard : (standard : Registry σ).entries = standardEntries := by
  simp [standard, OrderedMap.ofList, OrderedMap.insertMany, standardEntries, OrderedMap.insert,
    OrderedMap.insertEntries]

def assemble (sources : RegistrySources σ) : Registry σ :=
  let start := if sources.defaults then standard else ∅
  ((start.insertMany sources.extra.entries).insertMany
    (sources.echoed.map fun k => (k, .echo true))).insertMany
    (sources.dropped.map fun k => (k, .echo false))

/-- The first keyword, in registry order, whose value cannot answer. -/
def firstInert? (r : Registry σ) : Option Text :=
  (r.entries.find? fun e => !e.2.isUsable).map Prod.fst

theorem firstInert?_eq_none_iff {r : Registry σ} :
    r.firstInert? = none ↔ ∀ e ∈ r.entries, e.2.isUsable = true := by
  simp [firstInert?]

/-- Every keyword with the way its handler is shown, in registry order. -/
def shown (r : Registry σ) : List (Text × Text) := r.entries.map fun e => (e.1, e.2.label)

end Registry

end EscapeClause
