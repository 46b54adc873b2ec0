import JsonSchema.Format.Calendar
import JsonSchema.Format.Address
import JsonSchema.Regex.Reader

/-! # Named formats of strings -/

namespace JsonSchema

/-- Named predicates on strings, in the order of their names. -/
structure FormatRegistry where
  formats : List (String × (String → Bool))

namespace FormatRegistry

def empty : FormatRegistry := ⟨[]⟩

def insertSorted (name : String) (p : String → Bool) :
    List (String × (String → Bool)) → List (String × (String → Bool))
  | [] => [(name, p)]
  | (k, q) :: fs =>
    if k = name then (name, p) :: fs
    else if name < k then (name, p) :: (k, q) :: fs
    else (k, q) :: insertSorted name p fs

/-- A format of the same name is replaced. -/
def register (r : FormatRegistry) (name : String) (p : String → Bool) : FormatRegistry :=
  ⟨insertSorted name p r.formats⟩

def unregister (r : FormatRegistry) (name : String) : FormatRegistry :=
  ⟨r.formats.filter (·.1 != name)⟩

def names (r : FormatRegistry) : List String := r.formats.map (·.1)

def contains (r : FormatRegistry) (name : String) : Bool := r.names.contains name

/-- Every string has a format whose name is not registered. -/
def check (r : FormatRegistry) (name value : String) : Bool :=
  match r.formats.lookup name with
  | some p => p value
  | none => true

/-- The formats that are there from the start. -/
def builtin : FormatRegistry :=
  ⟨[("date", Calendar.isDate),
    ("date-time", Calendar.isDateTime),
    ("email", Address.isEmail),
    ("ipv4", Address.isIpv4),
    ("ipv6", Address.isIpv6),
    ("regex", fun s => (Regex.read? s).isSome),
    ("time", Calendar.isTime),
    ("uri", Address.isUri),
    ("uuid", Address.isUuid)]⟩

end FormatRegistry

end JsonSchema
