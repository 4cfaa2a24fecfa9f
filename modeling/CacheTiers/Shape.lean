namespace CacheTiers

inductive Shape where
  | plain
  | optional
  | primitive
deriving DecidableEq, Repr

namespace Shape

def text : Shape → String
  | plain => "plain"
  | optional => "optional"
  | primitive => "primitive"

def title : Shape → String
  | plain => "Plain"
  | optional => "Optional"
  | primitive => "Primitive"

def ofText? : String → Option Shape
  | "plain" => some plain
  | "optional" => some optional
  | "primitive" => some primitive
  | _ => none

def admitsAbsence : Shape → Bool
  | optional => true
  | plain | primitive => false

def accepts (declared actual : Shape) : Bool :=
  declared.admitsAbsence == actual.admitsAbsence

end Shape

-- How results of type `R` carry values of type `V`. Tiers hold values; a result without a value is absent and is
-- never held.
structure ResultForm (V R : Type) where
  shape : Shape
  toValue? : R → Option V
  ofValue : V → R
  absent? : Option R

namespace ResultForm

variable {V : Type}

def plain : ResultForm V V where
  shape := .plain
  toValue? := some
  ofValue := id
  absent? := none

def optional : ResultForm V (Option V) where
  shape := .optional
  toValue? := id
  ofValue := some
  absent? := some none

-- A form is faithful when values and the results that have them stand for one another, and when a result without a
-- value is the absent one.
structure Faithful {R : Type} (form : ResultForm V R) : Prop where
  reads_back : ∀ value, form.toValue? (form.ofValue value) = some value
  rebuilds : ∀ result value, form.toValue? result = some value → form.ofValue value = result
  absent_without_value : ∀ result, form.toValue? result = none → form.absent? = some result
  absence_admitted : form.absent?.isSome = form.shape.admitsAbsence

theorem plain_faithful : (plain : ResultForm V V).Faithful :=
  ⟨fun _ => rfl, fun _ _ h => (Option.some.inj h).symm, fun _ h => by simp [plain] at h, rfl⟩

theorem optional_faithful : (optional : ResultForm V (Option V)).Faithful :=
  ⟨fun _ => rfl, fun _ _ h => h.symm, fun _ h => by simp_all [optional], rfl⟩

end ResultForm

end CacheTiers
