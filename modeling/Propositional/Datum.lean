/-!
# Values from outside

Truth values may be given as values of any kind.  A value is false if it is absent, zero or empty,
and true otherwise; a text is false only if it is empty.
-/

namespace Propositional

/-- A value from outside.  Of a list or record only the size matters. -/
inductive Datum where
  | absent
  | flag (value : Bool)
  | integer (value : Int)
  | real (value : Float)
  | text (value : String)
  | collection (size : Nat)

/-- The truth value that a value counts as. -/
def Datum.truth : Datum → Bool
  | absent => false
  | flag value => value
  | integer value => value != 0
  | real value => value != 0.0
  | text value => !value.isEmpty
  | collection size => size != 0

end Propositional
