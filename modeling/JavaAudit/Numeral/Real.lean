import JavaAudit.Decimal.Binary
import JavaAudit.Numeral.Integer
import JavaAudit.Text.LetterCase

/-! Reading decimal numbers as doubles.

A number is a sign, digits with at most one point among them, and an exponent; or one of the words
for infinity and for the undefined number. -/

set_option autoImplicit false

namespace JavaAudit.Numeral

open Text

/-- Drop the underscores of a text in which each one stands between two digits. -/
def dropSeparators? : List Char → Option (List Char)
  | [] => some []
  | ['_'] => none
  | [c] => some [c]
  | '_' :: _ => none
  | c :: '_' :: next :: rest =>
    if (decimalValue? c).isSome ∧ (decimalValue? next).isSome then
      (dropSeparators? (next :: rest)).map (c :: ·)
    else none
  | c :: rest => (dropSeparators? rest).map (c :: ·)

def spanDigits : List Char → List Nat × List Char
  | [] => ([], [])
  | c :: rest =>
    match decimalValue? c with
    | some digit => (digit :: (spanDigits rest).1, (spanDigits rest).2)
    | none => ([], c :: rest)

def exponent? : List Char → Option Int
  | [] => some 0
  | mark :: rest =>
    if mark = 'e' ∨ mark = 'E' then
      signed? (fun text =>
        match spanDigits text with
        | ([], _) => none
        | (digits, []) => some (ofDigits 10 digits)
        | _ => none) rest
    else none

def spanFraction : List Char → List Nat × List Char
  | '.' :: rest => spanDigits rest
  | text => ([], text)

def decimal? (negative : Bool) (text : List Char) : Option Float := do
  let (whole, rest) := spanDigits text
  let (fraction, rest) := spanFraction rest
  let exponent ← exponent? rest
  if whole.isEmpty && fraction.isEmpty then none
  else
    some (Decimal.ofScientific negative (ofDigits 10 (whole ++ fraction))
      (exponent - fraction.length))

def unsignedReal? (negative : Bool) (text : List Char) : Option Float :=
  let word := text.map Char.toLower
  if word = "inf".toList ∨ word = "infinity".toList then
    some (Decimal.ofScientific negative 1 1000)
  else if word = "nan".toList then some (0.0 / 0.0)
  else decimal? negative text

def real? (text : List Char) : Option Float := do
  let text ← dropSeparators? (trimMargin text)
  match text with
  | '-' :: rest => unsignedReal? true rest
  | '+' :: rest => unsignedReal? false rest
  | _ => unsignedReal? false text

end JavaAudit.Numeral
