/-!
# Steps that may fail

A chain of steps succeeds only if every step of it does.
-/

set_option autoImplicit false

namespace PeerMesh

variable {Error Value Result : Type} {source : Except Error Value} {result : Result}

theorem bind_eq_ok {continuation : Value → Except Error Result}
    (success : source.bind continuation = .ok result) :
    ∃ value, source = .ok value ∧ continuation value = .ok result := by
  cases source with
  | error error => cases success
  | ok value => exact ⟨value, rfl, success⟩

theorem map_eq_ok {change : Value → Result} (success : source.map change = .ok result) :
    ∃ value, source = .ok value ∧ change value = result := by
  cases source with
  | error error => cases success
  | ok value =>
      cases success
      exact ⟨value, rfl, rfl⟩

theorem mapError_eq_ok {Fault : Type} {change : Error → Fault} {value : Value}
    (success : source.mapError change = .ok value) : source = .ok value := by
  cases source with
  | error error => cases success
  | ok found =>
      cases success
      rfl

theorem toOption_eq_some {value : Value} (success : source.toOption = some value) :
    source = .ok value := by
  cases source with
  | error error => cases success
  | ok found =>
      cases success
      rfl

end PeerMesh
