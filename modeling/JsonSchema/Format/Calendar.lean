import JsonSchema.Decimal.Numeral

/-! # Dates and times -/

namespace JsonSchema.Calendar

def isLeap (year : Nat) : Bool := year % 4 == 0 && (year % 100 != 0 || year % 400 == 0)

def daysIn (year month : Nat) : Nat :=
  if month = 2 then (if isLeap year then 29 else 28)
  else if [4, 6, 9, 11].contains month then 30
  else 31

def isDay (year month day : Nat) : Bool :=
  1 ≤ month && month ≤ 12 && 1 ≤ day && day ≤ daysIn year month

/-- Exactly `count` digits, and what follows them. -/
def readDigits? (count : Nat) (cs : List Char) : Option (Nat × List Char) :=
  let digits := cs.take count
  if digits.length = count ∧ digits.all Decimal.isDigit then
    some (Decimal.digitsValue digits, cs.drop count)
  else none

def readChar? (allowed : Char → Bool) : List Char → Option (List Char)
  | c :: cs => if allowed c then some cs else none
  | [] => none

/-- Year, month and day with hyphens, and what follows them. -/
def readDate? (cs : List Char) : Option (List Char) := do
  let (year, cs) ← readDigits? 4 cs
  let cs ← readChar? (· == '-') cs
  let (month, cs) ← readDigits? 2 cs
  let cs ← readChar? (· == '-') cs
  let (day, cs) ← readDigits? 2 cs
  if isDay year month day then some cs else none

/-- A fraction of a second is a point and at least one digit. -/
def dropFraction? : List Char → Option (List Char)
  | '.' :: cs =>
    if (cs.takeWhile Decimal.isDigit).isEmpty then none else some (cs.dropWhile Decimal.isDigit)
  | cs => some cs

/-- Hours, minutes and seconds; a minute may have a leap second. -/
def readClock? (cs : List Char) : Option (List Char) := do
  let (hour, cs) ← readDigits? 2 cs
  let cs ← readChar? (· == ':') cs
  let (minute, cs) ← readDigits? 2 cs
  let cs ← readChar? (· == ':') cs
  let (second, cs) ← readDigits? 2 cs
  if hour < 24 ∧ minute < 60 ∧ second ≤ 60 then dropFraction? cs else none

/-- The distance from universal time: `Z`, or a sign, hours and minutes below a day. The minus sign
may be the one of mathematics. -/
def readOffset? (cs : List Char) : Option (List Char) := do
  match cs with
  | 'Z' :: cs => some cs
  | 'z' :: cs => some cs
  | _ =>
    let cs ← readChar? (fun c => c == '+' || c == '-' || c == '\u2212') cs
    let (hour, cs) ← readDigits? 2 cs
    let cs ← readChar? (· == ':') cs
    let (minute, cs) ← readDigits? 2 cs
    if hour < 24 ∧ minute < 60 then some cs else none

def isDate (s : String) : Bool := readDate? s.toList == some []

def isTime (s : String) : Bool := (readClock? s.toList).bind readOffset? == some []

/-- A date and a time, parted by `T` in either case or by a blank. -/
def isDateTime (s : String) : Bool :=
  (do let cs ← readDate? s.toList
      let cs ← readChar? (fun c => c == 'T' || c == 't' || c == ' ') cs
      let cs ← readClock? cs
      readOffset? cs) == some []

end JsonSchema.Calendar
