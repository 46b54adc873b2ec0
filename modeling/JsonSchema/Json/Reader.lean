import JsonSchema.Json.Token

/-! # Values from tokens -/

namespace JsonSchema.Reader

/-- A container that is still open, with what came before the value being read. -/
inductive Frame where
  /-- The items stand in reverse. -/
  | items (before : List Json)
  | members (before : Members) (key : String)

/-- What may come next. -/
inductive State where
  | value (stack : List Frame)
  | itemOrEnd (stack : List Frame)
  | keyOrEnd (stack : List Frame)
  | key (before : Members) (stack : List Frame)
  | colon (before : Members) (key : String) (stack : List Frame)
  | done (v : Json) (stack : List Frame)

/-- How many containers may be open at once. -/
def maxDepth : Nat := 127

/-- The first token of a value. -/
def begin? (stack : List Frame) : Token → Option State
  | .text s => some (.done (.string s) stack)
  | .scalar v => some (.done v stack)
  | .openArray => if stack.length < maxDepth then some (.itemOrEnd stack) else none
  | .openObject => if stack.length < maxDepth then some (.keyOrEnd stack) else none
  | _ => none

/-- What follows a value depends on its container. -/
def resume? (v : Json) : List Frame → Token → Option State
  | .items before :: stack, .comma => some (.value (.items (v :: before) :: stack))
  | .items before :: stack, .closeArray => some (.done (.array (v :: before).reverse) stack)
  | .members before key :: stack, .comma => some (.key (before.insert key v) stack)
  | .members before key :: stack, .closeObject =>
    some (.done (.object (before.insert key v)) stack)
  | _, _ => none

def step? : State → Token → Option State
  | .value stack, t => begin? stack t
  | .itemOrEnd stack, .closeArray => some (.done (.array []) stack)
  | .itemOrEnd stack, t => begin? (.items [] :: stack) t
  | .keyOrEnd stack, .closeObject => some (.done (.object []) stack)
  | .keyOrEnd stack, .text s => some (.colon [] s stack)
  | .key before stack, .text s => some (.colon before s stack)
  | .colon before key stack, .colon => some (.value (.members before key :: stack))
  | .done v stack, t => resume? v stack t
  | _, _ => none

def run? : State → List Token → Option State
  | s, [] => some s
  | s, t :: ts => (step? s t).bind (run? · ts)

end Reader

/-- The value that a text holds, if the text is nothing else. -/
def Json.parse? (text : String) : Option Json :=
  match (Token.scan? text.toList).bind (Reader.run? (.value [])) with
  | some (.done v []) => some v
  | _ => none

end JsonSchema
