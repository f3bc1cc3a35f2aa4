/-!
# Named alternatives

A type with finitely many named values lists them in a fixed order. The names are
distinct, so a value is found again by its name (`named?_name`).
-/

namespace AssetExchange

/-- A type with finitely many values, each with a name of its own. -/
class Enumerated (alpha : Type) where
  /-- Every value, in declaration order. -/
  values : List alpha
  name : alpha → String
  mem_values : ∀ value, value ∈ values
  name_injective : ∀ first second, name first = name second → first = second

namespace Enumerated

variable {alpha : Type} [Enumerated alpha]

def named? (alpha : Type) [Enumerated alpha] (text : String) : Option alpha :=
  (values : List alpha).find? fun value => name value == text

def names (alpha : Type) [Enumerated alpha] : List String :=
  (values : List alpha).map name

theorem named?_eq_some_iff (text : String) (value : alpha) :
    named? alpha text = some value ↔ name value = text := by
  constructor
  · intro found
    simpa using List.find?_some found
  · intro named
    cases found : named? alpha text with
    | none =>
        have absent := List.find?_eq_none.1 found value (mem_values value)
        simp [named] at absent
    | some other =>
        have otherNamed : name other = text := by
          simpa using List.find?_some found
        rw [name_injective other value (otherNamed.trans named.symm)]

@[simp] theorem named?_name (value : alpha) :
    named? alpha (name value) = some value :=
  (named?_eq_some_iff _ value).2 rfl

end Enumerated
end AssetExchange
