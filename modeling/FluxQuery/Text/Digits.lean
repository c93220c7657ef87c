/-!
# Decimal digits

Numbers as runs of the ten digits: `Digits.ofNat` writes one without leading zeros, `Digits.value` reads one, and
`Digits.padded` fills up to a width with zeros on the left.
-/

namespace FluxQuery.Digits

/-- The digits of `n`, most significant first; `0` is one digit. -/
def ofNat (n : Nat) : List Char := Nat.toDigits 10 n

/-- The number a run of digits stands for; leading zeros do not matter. -/
def value (digits : List Char) : Nat := Nat.ofDigitChars 10 digits 0

/-- At least `width` digits, with zeros in front where `n` is short. -/
def padded (width n : Nat) : List Char :=
  List.replicate (width - (ofNat n).length) '0' ++ ofNat n

theorem value_ofNat (n : Nat) : value (ofNat n) = n :=
  Nat.ofDigitChars_toDigits (by decide) (by decide)

end FluxQuery.Digits
