/-! # JSON values -/

namespace JsonSchema

/-! ## Numbers -/

/-- The integer fits a signed or an unsigned 64-bit word. -/
def FitsWord (n : Int) : Prop := -9223372036854775808 ≤ n ∧ n < 18446744073709551616

instance (n : Int) : Decidable (FitsWord n) := inferInstanceAs (Decidable (_ ∧ _))

theorem fitsWord_of_uint64 (n : UInt64) : FitsWord n.toNat := by
  have := n.toNat_lt
  constructor <;> omega

/-- Integers and doubles are told apart: `1` is not `1.0`. -/
inductive Number where
  | int (value : Int) (fits : FitsWord value)
  | double (value : Float) (finite : value.isFinite = true)
deriving DecidableEq

namespace Number

def ofInt? (n : Int) : Option Number := if h : FitsWord n then some (.int n h) else none

/-- NaN and the infinities are no numbers of JSON. -/
def ofFloat? (f : Float) : Option Number :=
  if h : f.isFinite = true then some (.double f h) else none

def ofUInt64 (n : UInt64) : Number := .int n.toNat (fitsWord_of_uint64 n)

def zero : Number := .int 0 (by decide)

/-- The nearest double. -/
def toFloat : Number → Float
  | int n _ => Float.ofInt n
  | double f _ => f

end Number

/-! ## Values -/

/-- The members of an object stand in the order in which they were put in. -/
inductive Json where
  | null
  | bool (value : Bool)
  | number (value : Number)
  | string (text : String)
  | array (items : List Json)
  | object (members : List (String × Json))

abbrev Members := List (String × Json)

namespace Json

instance : Inhabited Json := ⟨null⟩

def ofNat (n : UInt64) : Json := number (.ofUInt64 n)

/-- A position or a size; one beyond the words is written as a double. -/
def ofSize (n : Nat) : Json :=
  match Number.ofInt? n with
  | some k => number k
  | none => number ((Number.ofFloat? (Float.ofNat n)).getD .zero)

def strings (texts : List String) : Json := array (texts.map string)

def asString? : Json → Option String
  | string s => some s
  | _ => none

def asArray? : Json → Option (List Json)
  | array items => some items
  | _ => none

def asObject? : Json → Option Members
  | object ms => some ms
  | _ => none

def asBool? : Json → Option Bool
  | bool b => some b
  | _ => none

/-- The nearest double to a number. -/
def asFloat? : Json → Option Float
  | number n => some n.toFloat
  | _ => none

end Json

/-! ## Members -/

namespace Members

def get? (ms : Members) (key : String) : Option Json := ms.lookup key

def hasKey (ms : Members) (key : String) : Bool := ms.any (·.1 == key)

def keys (ms : Members) : List String := ms.map (·.1)

/-- A key that is there keeps its place and takes the new value. -/
def insert : Members → String → Json → Members
  | [], key, value => [(key, value)]
  | (k, v) :: ms, key, value =>
    if k = key then (key, value) :: ms else (k, v) :: insert ms key value

/-- Of a key that occurs twice the first place and the last value count. -/
def ofList (entries : List (String × Json)) : Members :=
  entries.foldl (fun ms e => insert ms e.1 e.2) []

theorem get?_insert_self (ms : Members) (key : String) (value : Json) :
    (ms.insert key value).get? key = some value := by
  induction ms with
  | nil => simp [insert, get?]
  | cons e ms ih =>
    obtain ⟨k, v⟩ := e
    simp only [get?] at ih ⊢
    by_cases h : k = key
    · simp [insert, h]
    · have : (key == k) = false := by simp [Ne.symm h]
      simp [insert, h, List.lookup_cons, this, ih]

theorem keys_insert (ms : Members) (key : String) (value : Json) :
    (ms.insert key value).keys = if key ∈ ms.keys then ms.keys else ms.keys ++ [key] := by
  induction ms with
  | nil => simp [insert, keys]
  | cons e ms ih => grind [insert, keys]

end Members

end JsonSchema
