/-
This file gives floating point numbers their two texts: the text that users read and write, and
the text that shows in messages.
-/

import TableStore.Binary.Order
import TableStore.Decimal.Shortest

namespace TableStore.Binary

variable {format : Format}

/-- A negative number starts with a minus sign. -/
def signed (negative : Bool) (text : List Char) : String :=
  String.ofList (if negative then '-' :: text else text)

/-- The text has no exponent, and no point unless digits follow it. -/
def text : Binary format → String
  | .nan => "NaN"
  | .infinite negative => signed negative "inf".toList
  | .finite negative significand exponent _ =>
      if significand = 0 then signed negative ['0']
      else
        let (digits, place) := (Decimal.shortest format significand exponent).trimmed
        signed negative (Decimal.positional digits place)

/-- Messages write the sizes below this limit with an exponent. -/
def smallLimit (format : Format) : Binary format := round format false 1 10000

/-- Messages write the sizes from this limit on with an exponent. -/
def largeLimit (format : Format) : Binary format := round format false 10000000000000000 1

/-- The text in messages always has a point or an exponent. -/
def shown : Binary format → String
  | .nan => "NaN"
  | .infinite negative => signed negative "inf".toList
  | .finite negative significand exponent _ =>
      if significand = 0 then signed negative "0.0".toList
      else
        let (digits, place) := (Decimal.shortest format significand exponent).trimmed
        let size := pack format false significand exponent
        if size.compare? (smallLimit format) = some .lt
            ∨ size.compare? (largeLimit format) ≠ some .lt then
          signed negative (Decimal.scientific digits place)
        else
          let plain := Decimal.positional digits place
          signed negative (if '.' ∈ plain then plain else plain ++ ".0".toList)

end TableStore.Binary
