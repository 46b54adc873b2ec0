import JsonSchema.Text.CharSet
import JsonSchema.Text.CategoryTable
import JsonSchema.Text.PropertyTable

/-!
# General categories and the classes built from them

Expressions go by edition 16 of the character data; written text and names of groups go by
edition 17.
-/

namespace JsonSchema.Text

/-- The general category of a character. -/
inductive Category where
  | lu | ll | lt | lm | lo
  | mn | mc | me
  | nd | nl | no
  | pc | pd | ps | pe | pi | pf | po
  | sm | sc | sk | so
  | zs | zl | zp
  | cc | cf | cs | co | cn
deriving DecidableEq, Repr

namespace Category

def all : List Category :=
  [lu, ll, lt, lm, lo, mn, mc, me, nd, nl, no, pc, pd, ps, pe, pi, pf, po, sm, sc, sk, so,
    zs, zl, zp, cc, cf, cs, co, cn]

/-- The two-letter name. -/
def code : Category → String
  | lu => "Lu" | ll => "Ll" | lt => "Lt" | lm => "Lm" | lo => "Lo"
  | mn => "Mn" | mc => "Mc" | me => "Me"
  | nd => "Nd" | nl => "Nl" | no => "No"
  | pc => "Pc" | pd => "Pd" | ps => "Ps" | pe => "Pe" | pi => "Pi" | pf => "Pf" | po => "Po"
  | sm => "Sm" | sc => "Sc" | sk => "Sk" | so => "So"
  | zs => "Zs" | zl => "Zl" | zp => "Zp"
  | cc => "Cc" | cf => "Cf" | cs => "Cs" | co => "Co" | cn => "Cn"

def ofCode? (s : String) : Option Category := all.find? (·.code == s)

/-- The table of edition 16 of the character data. -/
def table : Steps Category := Steps.ofText ofCode? categoryRuns

/-- What edition 17 changed. -/
def laterTable : Steps (Option Category) :=
  Steps.ofText (fun s => if s = "-" then some none else (ofCode? s).map some) laterCategoryRuns

/-- The characters of these categories in edition 16. -/
def set (ks : List Category) : CharSet := CharSet.ofSteps table ks.contains

end Category

/-- The category in edition 17. A character outside the tables is unassigned. -/
def category (c : Char) : Category :=
  match (Category.laterTable.at? c.toNat).join with
  | some k => k
  | none => (Category.table.at? c.toNat).getD .cn

/-! ## Classes in edition 17 -/

def otherAlphabetic : CharSet := .ofText otherAlphabeticText
def laterAlphabetic : CharSet := .ofText laterAlphabeticText
def otherExtend : CharSet := .ofText otherExtendText

def isLetter (c : Char) : Bool := [.lu, .ll, .lt, .lm, .lo].contains (category c)

def isNumeric (c : Char) : Bool := [.nd, .nl, .no].contains (category c)

def isAlphabetic (c : Char) : Bool :=
  isLetter c || category c == .nl || otherAlphabetic.contains c || laterAlphabetic.contains c

def extendsGrapheme (c : Char) : Bool :=
  category c == .mn || category c == .me || otherExtend.contains c

end JsonSchema.Text
