import DocModel.Decimal.Shortest

set_option autoImplicit false

/-! # The text of a double

Doubles are written with the fewest digits that read back: positional where the leading digit
stands between the fifth place after the point and the sixteenth before it, with an exponent
otherwise. Positional notation has at least one digit after the point. -/

namespace DocModel.Decimal

/-- The digits of a decimal with its point after `point` digits. -/
def positional (digits : List Char) (point : Int) : List Char :=
  if point ≤ 0 then
    ['0', '.'] ++ List.replicate (-point).toNat '0' ++ digits
  else if point.toNat < digits.length then
    digits.take point.toNat ++ ['.'] ++ digits.drop point.toNat
  else
    digits ++ List.replicate (point.toNat - digits.length) '0' ++ ['.', '0']

/-- The digits of a decimal with one digit before the point and an exponent. -/
def scientific (digits : List Char) (point : Int) : List Char :=
  let mantissa := match digits with
    | first :: second :: rest => first :: '.' :: second :: rest
    | _ => digits
  mantissa ++ ['e'] ++ (toString (point - 1)).toList

/-- The text of the size of a finite double. -/
def magnitudeText (f : Float) : List Char :=
  if f == 0.0 then ['0', '.', '0']
  else
    let s := shortest f
    let digits := Nat.toDigits 10 s.digits
    let point := s.exponent + digits.length
    if -5 < point ∧ point ≤ 16 then positional digits point else scientific digits point

/-- The text of a finite double. -/
def floatText (f : Float) : String :=
  let negative := f.toBits >>> 63 == 1
  String.ofList ((if negative then ['-'] else []) ++ magnitudeText f)

end DocModel.Decimal
