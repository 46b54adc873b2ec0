import JsonSchema.Regex.Basic

/-! # The search for a match -/

namespace JsonSchema

/-- A place in a text: what stands before it and after it. -/
structure Place where
  before : Option Char
  after : Option Char

namespace Anchor

def isAsciiWord (c : Char) : Bool := c.isAlphanum || c == '_'

def isWordSide (ascii : Bool) (side : Option Char) : Bool :=
  side.any fun c => if ascii then isAsciiWord c else Text.Property.word.contains c

def holds (at_ : Place) : Anchor → Bool
  | textStart => at_.before.isNone
  | textEnd => at_.after.isNone
  | lineStart => at_.before.isNone || at_.before == some '\n'
  | lineEnd => at_.after.isNone || at_.after == some '\n'
  | anyLineStart =>
    at_.before.isNone || at_.before == some '\n' ||
      (at_.before == some '\r' && at_.after != some '\n')
  | anyLineEnd =>
    at_.after.isNone || at_.after == some '\r' ||
      (at_.after == some '\n' && at_.before != some '\r')
  | boundary ascii => isWordSide ascii at_.before != isWordSide ascii at_.after
  | noBoundary ascii => isWordSide ascii at_.before == isWordSide ascii at_.after
  | wordStart ascii => !isWordSide ascii at_.before && isWordSide ascii at_.after
  | wordEnd ascii => isWordSide ascii at_.before && !isWordSide ascii at_.after
  | wordStartHalf ascii => !isWordSide ascii at_.before
  | wordEndHalf ascii => !isWordSide ascii at_.after

end Anchor

/-- An expression without counts, with marks on the sets that have just read a character. -/
inductive Marked where
  | empty
  | chars (s : CharSet) (mark : Bool)
  | anchor (a : Anchor)
  | seq (l r : Marked)
  | alt (l r : Marked)
  | star (r : Marked)

namespace Marked

/-! ## Expressions without marks -/

/-- `n` copies in a row, as a balanced tree. -/
def copies (m : Marked) (n : Nat) : Marked :=
  if n = 0 then empty
  else if n = 1 then m
  else seq (m.copies (n / 2)) (m.copies (n - n / 2))
termination_by n
decreasing_by all_goals omega

def repeated (m : Marked) (least : Nat) : Option Nat → Marked
  | some most => seq (m.copies least) ((alt m empty).copies (most - least))
  | none => seq (m.copies least) (star m)

def text : List Char → Marked
  | [] => empty
  | [c] => chars (.single c) false
  | c :: cs => seq (chars (.single c) false) (text cs)

mutual

def ofRegex : Regex → Marked
  | .empty => empty
  | .text cs => text cs
  | .chars s => chars s false
  | .anchor a => anchor a
  | .repeated r least most _ => (ofRegex r).repeated least most
  | .group _ r => ofRegex r
  | .seq rs => ofRow rs
  | .alt rs => ofChoice rs

def ofRow : List Regex → Marked
  | [] => empty
  | [r] => ofRegex r
  | r :: rs => seq (ofRegex r) (ofRow rs)

def ofChoice : List Regex → Marked
  | [] => chars .none false
  | [r] => ofRegex r
  | r :: rs => alt (ofRegex r) (ofChoice rs)

end

/-! ## Reading -/

/-- It can be passed at a place without reading. -/
def passable (p : Place) : Marked → Bool
  | empty => true
  | chars _ _ => false
  | anchor a => a.holds p
  | seq l r => l.passable p && r.passable p
  | alt l r => l.passable p || r.passable p
  | star _ => true

/-- A mark can leave at the end. -/
def leaves (p : Place) : Marked → Bool
  | empty => false
  | chars _ mark => mark
  | anchor _ => false
  | seq l r => r.leaves p || (l.leaves p && r.passable p)
  | alt l r => l.leaves p || r.leaves p
  | star r => r.leaves p

/-- Moves every mark over `c`, which follows `p`; `enter` puts one in front. -/
def shift (p : Place) (c : Char) (enter : Bool) : Marked → Marked
  | empty => empty
  | chars s _ => chars s (enter && s.contains c)
  | anchor a => anchor a
  | seq l r => seq (l.shift p c enter) (r.shift p c (l.leaves p || (enter && l.passable p)))
  | alt l r => alt (l.shift p c enter) (r.shift p c enter)
  | star r => star (r.shift p c (enter || r.leaves p))

/-- A match ends at the place. -/
def ends (p : Place) (m : Marked) : Bool := m.leaves p || m.passable p

/-- A match may begin anywhere. -/
def search (m : Marked) (before : Option Char) : List Char → Bool
  | [] => m.ends ⟨before, none⟩
  | c :: cs =>
    m.ends ⟨before, some c⟩ || (m.shift ⟨before, some c⟩ c true).search (some c) cs

end Marked

namespace Regex

/-- Some part of the text matches. -/
def occursIn (r : Regex) (text : String) : Bool := (Marked.ofRegex r).search none text.toList

end Regex

end JsonSchema
