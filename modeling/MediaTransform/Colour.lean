import MediaTransform.Media.Asset
import MediaTransform.Media.Params
import MediaTransform.Text.Blank
import MediaTransform.Text.Slice
import MediaTransform.Text.Utf8

/-! # Colours

* **`Colour`** — red, green, blue and alpha, one byte each.
* **`Colour.read`** — a colour by name, or by 3, 6 or 8 hexadecimal digits, alone or after `#` or
  `rgb:`. White space around the text and the case of its letters do not matter. The digits are
  sliced out of the text by byte positions, and a slice that is not there would be the refusal
  `miscut`.
* **`Colour.ofValue`** — the colour of a parameter, or a default.
* **`Colour.ffmpegText`** — the eight digits after `0x`. -/

namespace MediaTransform

/-- **A colour with an alpha channel.** -/
structure Colour where
  red : UInt8
  green : UInt8
  blue : UInt8
  alpha : UInt8
  deriving DecidableEq, Repr

namespace Colour

/-- Opaque black. -/
def black : Colour := ⟨0, 0, 0, 255⟩

/-- Opaque white. -/
def white : Colour := ⟨255, 255, 255, 255⟩

/-! ## (1) Digits -/

/-- The value of a hexadecimal digit, in any case. -/
def hexValue? (c : Char) : Option Nat :=
  if '0' ≤ c ∧ c ≤ '9' then some (c.toNat - 48)
  else if 'a' ≤ c ∧ c ≤ 'f' then some (c.toNat - 87)
  else if 'A' ≤ c ∧ c ≤ 'F' then some (c.toNat - 55)
  else none

/-- Whether a byte is a hexadecimal digit in ASCII. -/
def isHexByte (b : UInt8) : Bool :=
  (48 ≤ b.toNat && b.toNat ≤ 57) || (97 ≤ b.toNat && b.toNat ≤ 102) ||
    (65 ≤ b.toNat && b.toNat ≤ 70)

/-- The text without a plus sign before anything else. -/
def withoutSign : List Char → List Char
  | '+' :: c :: cs => c :: cs
  | cs => cs

/-- **The byte that a text writes in hexadecimal digits**, after a plus sign or without one. -/
def byteOfHex? (s : String) : Option UInt8 :=
  match (withoutSign s.toList).mapM hexValue? with
  | none | some [] => none
  | some values =>
    let n := values.foldl (fun n v => 16 * n + v) 0
    if n < 256 then some n.toUInt8 else none

/-! ## (2) Reading -/

/-- **Why a text gives no colour.** Only the first is an answer: the others are breaks of the program
that reads. -/
inductive Refusal where
  /-- The text is not understood. -/
  | unknown
  /-- There is no slice between these positions. -/
  | miscut (start stop : Nat)
  /-- The byte of a doubled digit does not fit. -/
  | overflow (digit : UInt8)
  deriving DecidableEq, Repr

/-- The byte that a slice of a text writes. -/
def byteAt (s : String) (start stop : Nat) : Except Refusal UInt8 :=
  match Text.slice? s start stop with
  | none => .error (.miscut start stop)
  | some piece =>
    match byteOfHex? piece with
    | some b => .ok b
    | none => .error .unknown

/-- The byte of two digits. -/
def pairAt (s : String) (start : Nat) : Except Refusal UInt8 := byteAt s start (start + 2)

/-- The byte of one digit that is written once and counts twice. -/
def doubledAt (s : String) (start : Nat) : Except Refusal UInt8 := do
  let digit ← byteAt s start (start + 1)
  if digit.toNat * 17 < 256 then return digit * 17 else throw (.overflow digit)

/-- **The colour of hexadecimal digits**: three digits are each doubled, six are opaque, eight have
their own alpha. -/
def ofHex (s : String) : Except Refusal Colour :=
  if (Bytes.ofText s).all isHexByte then
    match s.utf8ByteSize with
    | 3 => do return ⟨← doubledAt s 0, ← doubledAt s 1, ← doubledAt s 2, 255⟩
    | 6 => do return ⟨← pairAt s 0, ← pairAt s 2, ← pairAt s 4, 255⟩
    | 8 => do return ⟨← pairAt s 0, ← pairAt s 2, ← pairAt s 4, ← pairAt s 6⟩
    | _ => .error .unknown
  else .error .unknown

/-- The nine names. -/
def names : List (String × Colour) :=
  [("black", black), ("white", white), ("red", ⟨255, 0, 0, 255⟩), ("green", ⟨0, 128, 0, 255⟩),
    ("blue", ⟨0, 0, 255, 255⟩), ("yellow", ⟨255, 255, 0, 255⟩), ("gray", ⟨128, 128, 128, 255⟩),
    ("grey", ⟨128, 128, 128, 255⟩), ("transparent", ⟨0, 0, 0, 0⟩)]

/-- The text without a leading `#` or else a leading `rgb:`. -/
def withoutMarker : List Char → List Char
  | '#' :: cs => cs
  | 'r' :: 'g' :: 'b' :: ':' :: cs => cs
  | cs => cs

/-- A text without white space around it, in lower case. -/
def normalText (s : String) : String := lowerAscii (Text.trim s)

/-- **The colour of a text.** -/
def read (s : String) : Except Refusal Colour :=
  let text := normalText s
  match names.lookup text with
  | some c => .ok c
  | none => ofHex (String.ofList (withoutMarker text.toList))

/-- The colour of a text that gives one. -/
def ofText? (s : String) : Option Colour := (read s).toOption

/-- **The colour of a parameter**, or the default where the parameter is absent, a number or no
colour text. -/
def ofValue (default : Colour) : Option Value → Colour
  | some (.text t) => (ofText? t).getD default
  | _ => default

/-! ## (3) Writing -/

/-- The two lower-case hexadecimal digits of a byte. -/
def hexByte (b : UInt8) : List Char := [Nat.digitChar (b.toNat / 16), Nat.digitChar (b.toNat % 16)]

/-- The eight hexadecimal digits of a colour. -/
def hexDigits (c : Colour) : List Char :=
  hexByte c.red ++ hexByte c.green ++ hexByte c.blue ++ hexByte c.alpha

/-- **The colour as ffmpeg spells it.** -/
def ffmpegText (c : Colour) : String := "0x" ++ String.ofList c.hexDigits

end Colour

end MediaTransform
