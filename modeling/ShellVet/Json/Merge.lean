import ShellVet.Json.Basic

/-!
# Merging objects

The members of the source go into the target. Where both have an object under one key, the two are
merged in turn; elsewhere the value of the source replaces the one of the target.
-/

namespace ShellVet.Json

variable {τ : Type} [DecidableEq τ]

mutual

/-- The value under a key of the merged object, from the old value, if any, and the new one. -/
def mergeValue (old : Option (Json τ)) : Json τ → Json τ
  | .object new =>
    match old with
    | some (.object members) => .object (merge members new)
    | _ => .object new
  | new => new

/-- The target with the members of the source. -/
def merge (target : Members τ) : List (τ × Json τ) → Members τ
  | [] => target
  | (key, value) :: rest =>
    merge (put key (mergeValue (target.lookup key) value) target) rest

end

end ShellVet.Json
