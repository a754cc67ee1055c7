/-!
# Hexadecimal digits

Numbers of a fixed width in base sixteen.

## Main definitions

- `hexDigits` — the last digits of a number, most significant first
-/

namespace FishScript

/-- The last `width` hexadecimal digits of `n`, most significant first and in lower
case. -/
def hexDigits (width n : Nat) : List Char :=
  (List.range width).reverse.map fun place => Nat.digitChar (n / Nat.pow 16 place % 16)

end FishScript
