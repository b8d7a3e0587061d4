import MissionLint.Checker.Standard

namespace MissionLint

/-!
# Registries

A registry holds checkers under their names in the order of registration.  A
checker registered under a known name takes the place of the one there.
-/

/-- Checkers in the order of registration, and the names that are disabled. -/
structure Registry where
  checkers : List Checker
  disabled : List Text

namespace Registry

/-- The registry without checkers. -/
def empty : Registry :=
  ⟨[], []⟩

/-- The registry of the standard checkers, of which none is disabled. -/
def standard : Registry :=
  ⟨Checker.standard, []⟩

/-- Put a checker in the place of the one with its name, or at the end. -/
def place (checker : Checker) : List Checker → List Checker
  | [] => [checker]
  | known :: rest =>
      if known.name == checker.name then
        checker :: rest
      else
        known :: place checker rest

/-- Register a checker. -/
def register (registry : Registry) (checker : Checker) : Registry :=
  { registry with checkers := place checker registry.checkers }

/-- Disable the checker of a name, also one that is registered later. -/
def disable (registry : Registry) (name : Text) : Registry :=
  { registry with disabled := name :: registry.disabled }

/-- Enable the checker of a name again. -/
def enable (registry : Registry) (name : Text) : Registry :=
  { registry with disabled := registry.disabled.filter fun other => other != name }

/-- The names of the registered checkers. -/
def names (registry : Registry) : List Text :=
  registry.checkers.map Checker.name

/-- The checkers that are not disabled. -/
def enabled (registry : Registry) : List Checker :=
  registry.checkers.filter fun checker => !registry.disabled.contains checker.name

/-- The checker of a name. -/
def named? (registry : Registry) (name : Text) : Option Checker :=
  registry.checkers.find? fun checker => checker.name == name

/-- The checkers that can report an id. -/
def reporting (registry : Registry) (id : Text) : List Checker :=
  registry.checkers.filter fun checker => checker.ids.contains id

end Registry

end MissionLint
