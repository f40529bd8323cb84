import PolicyGate.Decimal.Shortest
import PolicyGate.Text.Numeral

/-!
Written forms of the shortest decimal. A form fixes which decimal exponents are written with a point
in place; the others take a signed exponent. Positional numbers always show a point.
-/
namespace PolicyGate

/-- Decimal exponents from `least` to `greatest` are written positionally, the others with `e`. -/
structure NumberForm where
  least : Int
  greatest : Int

namespace NumberForm

/-- JSON numbers: positional from `0.00001` up to `1000000000000000.0`. -/
def json : NumberForm := ⟨-5, 15⟩

def zeros (n : Nat) : List Char := List.replicate n '0'

/-- Digits with the point after the first `point` of them. -/
def placePoint (digits : List Char) (point : Int) : List Char :=
  if point ≤ 0 then '0' :: '.' :: zeros (-point).toNat ++ digits
  else
    let whole := point.toNat
    let rest := digits.drop whole
    digits.take whole ++ zeros (whole - digits.length) ++ '.' :: (if rest.isEmpty then ['0'] else rest)

def exponentText (e : Int) : List Char :=
  'e' :: (if e < 0 then '-' else '+') :: Text.decimal e.natAbs

/-- The text of `digits * 10 ^ exponent`. -/
def magnitude (form : NumberForm) (d : Scientific) : List Char :=
  let digits := Text.decimal d.digits
  let e : Int := d.exponent + digits.length - 1
  if form.least ≤ e ∧ e ≤ form.greatest then placePoint digits (e + 1)
  else
    match digits with
    | [] => []
    | [c] => c :: exponentText e
    | c :: rest => c :: '.' :: rest ++ exponentText e

def render (form : NumberForm) (x : Double) : String :=
  let text := form.magnitude x.shortest
  String.ofList (if x.isNegative then '-' :: text else text)

end NumberForm
end PolicyGate
