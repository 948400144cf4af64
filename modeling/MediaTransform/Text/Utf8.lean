/-! # Bytes and text

* **`Bytes`** — a row of bytes: the contents of a file or a pipe.
* **`Bytes.ofText`**, **`Bytes.text?`** — text in UTF-8, and back where the bytes are UTF-8.
* **`Bytes.lossyText`** — the text of any bytes: each longest beginning of a character that breaks
  off, and each byte that begins none, counts as one replacement character. -/

namespace MediaTransform

/-- **A row of bytes.** -/
abbrev Bytes := List UInt8

namespace Bytes

/-- A text in UTF-8. -/
def ofText (s : String) : Bytes := s.toUTF8.toList

/-- The text that the bytes are in UTF-8. -/
def text? (b : Bytes) : Option String := String.fromUTF8? ⟨b.toArray⟩

/-! ## Replacing what is no text -/

/-- The replacement character. -/
def replacement : Char := Char.ofNat 0xfffd

/-- What may follow the first byte of a character: the range of the second byte and the number of
further bytes after it. -/
structure Follow where
  low : Nat
  high : Nat
  further : Nat

/-- What must follow a first byte of a longer character. -/
def follow? (first : Nat) : Option Follow :=
  if 0xc2 ≤ first ∧ first ≤ 0xdf then some ⟨0x80, 0xbf, 0⟩
  else if first = 0xe0 then some ⟨0xa0, 0xbf, 1⟩
  else if first = 0xed then some ⟨0x80, 0x9f, 1⟩
  else if 0xe1 ≤ first ∧ first ≤ 0xef then some ⟨0x80, 0xbf, 1⟩
  else if first = 0xf0 then some ⟨0x90, 0xbf, 2⟩
  else if 0xf1 ≤ first ∧ first ≤ 0xf3 then some ⟨0x80, 0xbf, 2⟩
  else if first = 0xf4 then some ⟨0x80, 0x8f, 2⟩
  else none

/-- Whether a byte continues a character. -/
def isContinuation (b : UInt8) : Bool := 0x80 ≤ b.toNat && b.toNat ≤ 0xbf

/-- The bits of a first byte that count. -/
def firstBits (first : Nat) : Nat :=
  if first < 0xe0 then first % 0x20 else if first < 0xf0 then first % 0x10 else first % 0x08

/-- The bytes after a first byte that belong to its character, at most as many as it needs. -/
def tailOf (f : Follow) : Bytes → Bytes
  | [] => []
  | b :: rest =>
    if f.low ≤ b.toNat ∧ b.toNat ≤ f.high then b :: (rest.take f.further).takeWhile isContinuation
    else []

/-- The characters of bytes, most recent first, before those that are still to be read. -/
def lossyChars : Nat → List Char → Bytes → List Char
  | 0, done, _ => done
  | _, done, [] => done
  | fuel + 1, done, b :: rest =>
    if b.toNat < 0x80 then lossyChars fuel (Char.ofNat b.toNat :: done) rest
    else
      match follow? b.toNat with
      | none => lossyChars fuel (replacement :: done) rest
      | some f =>
        let tail := tailOf f rest
        -- a character that breaks off is replaced once, together with what there is of it
        let c :=
          if tail.length = f.further + 1 then
            Char.ofNat (tail.foldl (fun n t => n * 64 + t.toNat % 64) (firstBits b.toNat))
          else replacement
        lossyChars fuel (c :: done) (rest.drop tail.length)

/-- **The text of any bytes.** -/
def lossyText (b : Bytes) : String :=
  match text? b with
  | some s => s
  | none => String.ofList (lossyChars b.length [] b).reverse

end Bytes

end MediaTransform
