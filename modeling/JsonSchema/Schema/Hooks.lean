import JsonSchema.Schema.Basic
import JsonSchema.Text.Pieces

/-! # Ready-made hooks -/

namespace JsonSchema.Hooks

/-- The text of a value as an item of a split list: a string itself, any other value as JSON. -/
def itemText : Json → String
  | .string s => s
  | v => v.compact

/-- A text becomes the list of its pieces, a list the list of its items' texts, and any other value
but null a list of one text. -/
def splitDelimited (delimiter : Char) (_ : CoerceOptions) : Json → Json
  | .string s => .array ((Text.pieces delimiter s.toList).map fun p => .string (String.ofList p))
  | .array items => .array (items.map fun v => .string (itemText v))
  | .null => .null
  | v => .array [.string (itemText v)]

/-- The same value for every value. -/
def constant (value : Json) (_ : CoerceOptions) (_ : Json) : Json := value

/-- The same value wherever a value is filled in. -/
def constantTemplate (value : Json) (_ : TemplateOptions) (_ : Option Json) : Option Json :=
  some value

end JsonSchema.Hooks
