import JsonSchema.Json.Canonical
import JsonSchema.Decimal.Numeral
import JsonSchema.Text.Blank

/-! # Scalars that are read as another type -/

namespace JsonSchema

/-- Integers exactly, doubles as in messages. -/
def Number.plainText : Number → String
  | .int n _ => toString n
  | .double f _ => Decimal.displayText f

namespace Json

/-- A number becomes its text. -/
def coerceToString : Json → Json
  | number n => string n.plainText
  | v => v

/-- The finite double that a text stands for, with blanks around it. -/
def numberOfText? (s : String) : Option Number :=
  ((Decimal.readDouble? (Text.trim s.toList)).filter (·.isFinite)).bind Number.ofDouble?

/-- A numeral becomes its number. -/
def coerceToNumber : Json → Json
  | string s => ((numberOfText? s).map number).getD (string s)
  | v => v

/-- One and zero, as numbers or texts, and the names of the truth values become truth values. -/
def coerceToBoolean : Json → Json
  | number n =>
    if n.toFloat == 1.0 then bool true else if n.toFloat == 0.0 then bool false else number n
  | string "true" | string "1" => bool true
  | string "false" | string "0" => bool false
  | v => v

end Json

end JsonSchema
