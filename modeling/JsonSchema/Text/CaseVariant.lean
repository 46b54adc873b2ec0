import JsonSchema.Text.CharSet
import JsonSchema.Text.CaseTable

/-! # Characters that differ by case alone -/

namespace JsonSchema

namespace Text

def caseVariantTable : Steps (List Char) :=
  Steps.ofText (fun s => some ((hexList s).map Char.ofNat)) caseVariants

/-- The other characters that fold to the same one. -/
def variants (c : Char) : List Char := (caseVariantTable.given? c.toNat).getD []

/-- Only the letters of ASCII vary. -/
def asciiVariants (c : Char) : List Char :=
  if c.isUpper then [c.toLower] else if c.isLower then [c.toUpper] else []

end Text

namespace CharSet

/-- With every character that differs from a member by case alone. -/
def anyCase (s : CharSet) : CharSet :=
  s.union (ofList (Text.caseVariantTable.entries.toList.flatMap fun e =>
    if s.contains (Char.ofNat e.1) then e.2 else []))

/-- The same for the letters of ASCII. -/
def asciiCase (s : CharSet) : CharSet :=
  s.union (ofList ((List.range 128).flatMap fun n =>
    if s.contains (Char.ofNat n) then Text.asciiVariants (Char.ofNat n) else []))

end CharSet

end JsonSchema
