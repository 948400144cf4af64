import MediaTransform.Image.Bits.Source

/-! # Codes for rows of numbers

A row of numbers that was met before has a code (LZW). Each code but the first one also says which row
gets the next code: the row before with one more number.

* **`Lzw.Style`** — how codes are written.
* **`Lzw.Rows.row?`** — the row of a code.
* **`Lzw.expand?`** — the numbers of coded bytes. -/

namespace MediaTransform

namespace Lzw

open Bits (Source Reading)

/-- **How codes are written**: from the highest or the lowest bit on, and whether codes get longer one
code before they must. -/
structure Style where
  highestFirst : Bool
  early : Bool

/-- The largest number of codes. -/
def codeLimit : Nat := 4096

/-- The code that starts anew: one after the numbers. -/
def clearCode (size : Nat) : Nat := 2 ^ size

/-- The code that ends. -/
def endCode (size : Nat) : Nat := 2 ^ size + 1

/-- What is known while codes are read: the rows with codes, the width of the next code and the row
before. -/
structure Rows where
  rows : Array (List Nat)
  width : Nat
  last : Option (List Nat)

/-- What is known at the start: a row for each number, and two codes without rows. -/
def Rows.start (size : Nat) : Rows :=
  ⟨((List.range (2 ^ size)).map ([·]) ++ [[], []]).toArray, size + 1, none⟩

/-- The width of the next code when so many rows have codes. -/
def Style.widthAfter (s : Style) (width rows : Nat) : Nat :=
  if rows + (if s.early then 1 else 0) = 2 ^ width ∧ 2 ^ width < codeLimit then width + 1 else width

/-- **The row of a code**, and what is known after it: the row before with the first number of this
one has the next code. -/
def Rows.row? (s : Style) (r : Rows) (code : Nat) : Option (List Nat × Rows) :=
  match r.last with
  | none =>
    match r.rows[code]? with
    | none => none
    | some row => if row = [] then none else some (row, { r with last := some row })
  | some last =>
    let row := if code = r.rows.size then last ++ last.take 1 else r.rows.getD code []
    if row = [] then none
    else
      let rows := if r.rows.size < codeLimit then r.rows.push (last ++ row.take 1) else r.rows
      some (row, ⟨rows, s.widthAfter r.width rows.size, some row⟩)

/-- A byte with its bits in the opposite order. -/
def flipped (b : UInt8) : UInt8 := (Bits.toNat (Bits.ofNat 8 b.toNat).reverse).toUInt8

/-- The next code, of a width. -/
def Style.code (s : Style) (width : Nat) : Reading Nat := do
  let code ← Bits.read width
  return if s.highestFirst then Bits.toNat (Bits.ofNat width code).reverse else code

/-- Numbers until there are `count` of them or the codes end, after those that are read; at most
`fuel` codes. -/
def numbersFrom (s : Style) (size count : Nat) : Nat → Rows → Array Nat → Reading (Array Nat)
  | 0, _, _ => failure
  | fuel + 1, r, done => do
    if count ≤ done.size then return done
    let code ← s.code r.width
    if code = clearCode size then numbersFrom s size count fuel (.start size) done
    else if code = endCode size then return done
    else
      match r.row? s code with
      | none => failure
      | some (row, r) => numbersFrom s size count fuel r (done ++ row)

/-- **So many numbers of coded bytes**, each of so many bits; more are left out, fewer are refused. -/
def expand? (s : Style) (size count : Nat) (b : Bytes) : Option (Array Nat) := do
  let source : Source := .ofBytes (if s.highestFirst then b.map flipped else b)
  let (numbers, _) ← (numbersFrom s size count (8 * b.length + 1) (.start size) #[]).run source
  guard (count ≤ numbers.size)
  return numbers

end Lzw

end MediaTransform
