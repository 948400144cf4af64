/-! # The text of a duration

* **`durationText`** — a time in milliseconds in its largest fitting unit, with as many places as
  it needs: `0ns`, `250ms`, `1.5s`, `3600s`. -/

namespace MediaTransform

namespace Text

/-- The digits of a count below one thousand as places after a point, without trailing zeros. -/
def thousandths (n : Nat) : List Char :=
  let digits := [n / 100 % 10, n / 10 % 10, n % 10]
  ((digits.reverse.dropWhile (· = 0)).reverse).map Nat.digitChar

/-- **The text of a time in milliseconds.** -/
def durationText (milliseconds : Nat) : String :=
  if milliseconds = 0 then "0ns"
  else if milliseconds < 1000 then toString milliseconds ++ "ms"
  else
    match thousandths (milliseconds % 1000) with
    | [] => toString (milliseconds / 1000) ++ "s"
    | places => toString (milliseconds / 1000) ++ "." ++ String.ofList places ++ "s"

end Text

end MediaTransform
