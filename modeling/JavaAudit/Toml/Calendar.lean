import JavaAudit.Decimal.Binary
import JavaAudit.Numeral.Integer

/-! Dates and times of day. -/

set_option autoImplicit false

namespace JavaAudit.Toml

structure Date where
  year : Int
  month : Int
  day : Int
  deriving DecidableEq, Repr

namespace Date

def isLeapYear (year : Int) : Bool :=
  year % 4 == 0 && (year % 100 != 0 || year % 400 == 0)

def daysInMonth (year month : Int) : Int :=
  if month == 2 then if isLeapYear year then 29 else 28
  else if [4, 6, 9, 11].contains month then 30
  else 31

def isValid (date : Date) : Bool :=
  1 ≤ date.year && date.year ≤ 9999 && 1 ≤ date.month && date.month ≤ 12 &&
    1 ≤ date.day && date.day ≤ daysInMonth date.year date.month

def fields (date : Date) : List Int :=
  [date.year, date.month, date.day]

end Date

structure Clock where
  hour : Int
  minute : Int
  second : Int
  microsecond : Int
  deriving DecidableEq, Repr

namespace Clock

def isValid (clock : Clock) : Bool :=
  0 ≤ clock.hour && clock.hour < 24 && 0 ≤ clock.minute && clock.minute < 60 &&
    0 ≤ clock.second && clock.second < 60 &&
    0 ≤ clock.microsecond && clock.microsecond < 1000000

/-- Hour and minute, and the smaller units if they are not zero. -/
def fields (clock : Clock) : List Int :=
  [clock.hour, clock.minute] ++
    if clock.microsecond != 0 then [clock.second, clock.microsecond]
    else if clock.second != 0 then [clock.second]
    else []

end Clock

structure Moment where
  date : Date
  clock : Clock
  offset : Option String
  deriving DecidableEq, Repr

namespace Moment

def slice (first last : Nat) (text : List Char) : List Char :=
  (text.drop first).take (last - first)

def number? (first last : Nat) (text : List Char) : Option Int :=
  Numeral.int? 10 (slice first last text)

/-- An offset has hours and minutes after a sign, or is the letter for none. -/
def offset? (text : List Char) : Option String :=
  if text == ['Z'] then some "+00:00"
  else
    match number? 1 3 text, number? 4 6 text with
    | some _, some _ => some (String.ofList text)
    | _, _ => none

def microseconds? (digits : List Char) : Option Int :=
  (Numeral.int? 10 digits).map fun value =>
    if digits.length ≤ 6 then value * Nat.pow 10 (6 - digits.length)
    else Int.tdiv value (Nat.pow 10 (digits.length - 6))

/-- A fraction and the offset after it, cut at the sign of the offset. -/
def cutFraction (text : List Char) : List Char × Option (List Char) :=
  let isSign := fun c => if text.contains '+' then c == '+' else c == '-'
  if text.getLast?.any fun c => c == 'Z' || c == 'z' then (text.dropLast, some ['Z'])
  else if text.any isSign then
    (text.takeWhile (!isSign ·), some (text.dropWhile (!isSign ·)))
  else (text, none)

/-- What follows the seconds: a fraction in microseconds and an offset. Text that cannot be read
counts as nothing. -/
def remainder (text : List Char) : Int × Option String :=
  match text with
  | [] => (0, none)
  | '.' :: rest =>
    let (digits, offset) := cutFraction rest
    match offset with
    | none => ((microseconds? digits).getD 0, none)
    | some offset =>
      match offset? offset, microseconds? digits with
      | some zone, some fraction => (fraction, some zone)
      | _, _ => (0, none)
  | _ => (0, offset? text)

/-- A date and a time at their positions; what stands between the numbers does not count. -/
def ofText? (text : List Char) : Option Moment := do
  let date : Date := ⟨← number? 0 4 text, ← number? 5 7 text, ← number? 8 10 text⟩
  let (microsecond, offset) := remainder (text.drop 19)
  let clock : Clock :=
    ⟨← number? 11 13 text, ← number? 14 16 text, ← number? 17 19 text, microsecond⟩
  if date.isValid && clock.isValid then some ⟨date, clock, offset⟩ else none

end Moment

def Date.ofText? (text : List Char) : Option Date := do
  let date : Date :=
    ⟨← Moment.number? 0 4 text, ← Moment.number? 5 7 text, ← Moment.number? 8 10 text⟩
  if date.isValid then some date else none

/-- A text that starts with hours, minutes and seconds of two digits each. Three to six more
digits after a point are microseconds. -/
def Clock.atFront? : List Char → Option Clock
  | h₁ :: h₂ :: ':' :: m₁ :: m₂ :: ':' :: s₁ :: s₂ :: rest =>
    if [h₁, h₂, m₁, m₂, s₁, s₂].all Char.isDigit then
      let number := fun (digits : List Char) => (Numeral.int? 10 digits).getD 0
      let fraction := match rest with
        | '.' :: more => (more.takeWhile Char.isDigit).take 6
        | _ => []
      some ⟨number [h₁, h₂], number [m₁, m₂], number [s₁, s₂],
        if 3 ≤ fraction.length then number fraction else 0⟩
    else none
  | _ => none

end JavaAudit.Toml
