import JsonSchema.Text.Hex

/-! # Tables over the code points -/

namespace JsonSchema.Text

/-- A rising list of code points, each with the value that holds from there to the next. -/
structure Steps (α : Type) where
  entries : Array (Nat × α)

namespace Steps

variable {α : Type}

/-- The last entry of `[lo, hi)` that does not lie above `n`, or `best` if there is none. -/
def search (t : Steps α) (n lo hi : Nat) (best : Option (Nat × α)) : Option (Nat × α) :=
  if lo < hi then
    let mid := (lo + hi) / 2
    match t.entries[mid]? with
    | some e => if e.1 ≤ n then t.search n (mid + 1) hi (some e) else t.search n lo mid best
    | none => best
  else best
termination_by hi - lo

/-- The entry in force at `n`. -/
def entry? (t : Steps α) (n : Nat) : Option (Nat × α) := t.search n 0 t.entries.size none

/-- The value in force at `n`. -/
def at? (t : Steps α) (n : Nat) : Option α := (t.entry? n).map (·.2)

/-- The value given for `n` itself. -/
def given? (t : Steps α) (n : Nat) : Option α :=
  (t.entry? n).bind fun e => if e.1 = n then some e.2 else none

end Steps

/-! ## Tables as text -/

/-- The pieces of a table, which blanks and line breaks part. -/
def tokens (table : String) : List String :=
  ((table.map fun c => if c = '\n' then ' ' else c).splitOn " ").filter (· ≠ "")

def hexList (plusList : String) : List Nat := (plusList.splitOn "+").map (hexNat ·.toList)

/-- Reads entries such as `41:Lu`; an entry that `value?` refuses is passed over. -/
def Steps.ofText {α : Type} (value? : String → Option α) (table : String) : Steps α :=
  ⟨((tokens table).filterMap fun t =>
    match t.splitOn ":" with
    | [point, value] => (value? value).map (hexNat point.toList, ·)
    | _ => none).toArray⟩

end JsonSchema.Text
