import JsonSchema.Json.Basic
import JsonSchema.Decimal.Style

/-! # JSON text -/

namespace JsonSchema

/-! ## Strings -/

def hexDigit (n : Nat) : Char := (Nat.digitChar n)

/-- What stands for a character between the quotes. -/
def escapeChar (c : Char) : List Char :=
  match c with
  | '"' => ['\\', '"']
  | '\\' => ['\\', '\\']
  | '\x08' => ['\\', 'b']
  | '\x0c' => ['\\', 'f']
  | '\n' => ['\\', 'n']
  | '\r' => ['\\', 'r']
  | '\t' => ['\\', 't']
  | c =>
    if c.toNat < 0x20 then
      ['\\', 'u', '0', '0', hexDigit (c.toNat / 16), hexDigit (c.toNat % 16)]
    else [c]

def quote (s : String) : String :=
  "\"" ++ String.ofList (s.toList.flatMap escapeChar) ++ "\""

/-! ## Compact text -/

def Number.text (style : Decimal.Style) : Number → String
  | .int n _ => toString n
  | .double f _ => style.render f

namespace Json

def scalarText : Json → String
  | null => "null"
  | bool b => if b then "true" else "false"
  | number n => n.text Decimal.jsonStyle
  | string s => quote s
  | array _ | object _ => ""

mutual

/-- Text without blanks. -/
def compact : Json → String
  | array items => "[" ++ compactItems items ++ "]"
  | object members => "\x7b" ++ compactMembers members ++ "\x7d"
  | v => v.scalarText

def compactItems : List Json → String
  | [] => ""
  | [v] => v.compact
  | v :: vs => v.compact ++ "," ++ compactItems vs

def compactMembers : List (String × Json) → String
  | [] => ""
  | [(k, v)] => quote k ++ ":" ++ v.compact
  | (k, v) :: ms => quote k ++ ":" ++ v.compact ++ "," ++ compactMembers ms

end

/-! ## Indented text -/

def lineBreak (depth : Nat) : String := "\n" ++ String.ofList (List.replicate (2 * depth) ' ')

mutual

/-- One item or member on each line, two blanks deeper than its container. -/
def indented (depth : Nat) : Json → String
  | array [] => "[]"
  | object [] => "\x7b\x7d"
  | array items => "[" ++ indentedItems depth items ++ lineBreak depth ++ "]"
  | object members => "\x7b" ++ indentedMembers depth members ++ lineBreak depth ++ "\x7d"
  | v => v.scalarText

def indentedItems (depth : Nat) : List Json → String
  | [] => ""
  | [v] => lineBreak (depth + 1) ++ v.indented (depth + 1)
  | v :: vs => lineBreak (depth + 1) ++ v.indented (depth + 1) ++ "," ++ indentedItems depth vs

def indentedMembers (depth : Nat) : List (String × Json) → String
  | [] => ""
  | [(k, v)] => lineBreak (depth + 1) ++ quote k ++ ": " ++ v.indented (depth + 1)
  | (k, v) :: ms =>
    lineBreak (depth + 1) ++ quote k ++ ": " ++ v.indented (depth + 1) ++ ","
      ++ indentedMembers depth ms

end

def pretty (v : Json) : String := v.indented 0

end Json

end JsonSchema
