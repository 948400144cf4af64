import MediaTransform.Image.ByteOrder
import MediaTransform.Image.Picture

/-! # The QOI format

One pixel after the other, each by the shortest of a few forms: a repetition, a pixel seen before, a
small difference to the last one, or its channels.

* **`Qoi.step`**, **`Qoi.encode`** — one more pixel, and the file of a picture.
* **`Qoi.pixelsFrom`**, **`Qoi.decode?`** — pixels of bytes, and the picture of a file. -/

namespace MediaTransform

namespace Qoi

/-! ## (1) Pixels -/

/-- The pixel before the first one. -/
def black : Pixel := ⟨0, 0, 0, 255⟩

/-- The place of a pixel among those seen before. -/
def place (p : Pixel) : Nat := (3 * p.red + 5 * p.green + 7 * p.blue + 11 * p.alpha) % 64

/-- The pixels seen before, at the start. -/
def noneSeen : Array Pixel := Array.replicate 64 .clear

/-- The longest repetition. -/
def longestRun : Nat := 62

/-- The byte of a pixel seen before. -/
def seenByte (place : Nat) : UInt8 := place.toUInt8

/-- The byte of a repetition. -/
def runByte (length : Nat) : UInt8 := (0xc0 + (length - 1)).toUInt8

/-- The difference of two channels modulo 256, moved up by `bias`. -/
def difference (bias a b : Nat) : Nat := (a + 256 + bias - b) % 256

/-- **A pixel by its difference to the last one**, or by its channels. -/
def changed (last p : Pixel) : Bytes :=
  if p.alpha ≠ last.alpha then
    [0xff, p.red.toUInt8, p.green.toUInt8, p.blue.toUInt8, p.alpha.toUInt8]
  else
    let full : Bytes := [0xfe, p.red.toUInt8, p.green.toUInt8, p.blue.toUInt8]
    let green := difference 32 p.green last.green
    if 64 ≤ green then full
    else
      let small := [difference 2 p.red last.red, difference 2 p.green last.green,
        difference 2 p.blue last.blue]
      if small.all (· < 4) then [(0x40 + small.foldl (fun n d => 4 * n + d) 0).toUInt8]
      else
        let red := difference 40 (difference 0 p.red last.red) green
        let blue := difference 40 (difference 0 p.blue last.blue) green
        if red < 16 ∧ blue < 16 then [(0x80 + green).toUInt8, (16 * red + blue).toUInt8] else full

/-! ## (2) Writing -/

/-- The writer: the pixels seen before, the last one and its place, how often it was repeated, and
the bytes so far, the latest first. -/
structure Writer where
  seen : Array Pixel := noneSeen
  last : Pixel := black
  /-- The place of the last pixel, once it is among those seen before. -/
  lastPlace : Option Nat := none
  run : Nat := 0
  written : List Bytes := []

/-- A repetition that is over; a single one is told by the place of the pixel where it has one. -/
def Writer.endRun (w : Writer) : Writer :=
  match w.run, w.lastPlace with
  | 0, _ => w
  | 1, some place => { w with run := 0, written := [seenByte place] :: w.written }
  | run, _ => { w with run := 0, written := [runByte run] :: w.written }

/-- **One more pixel.** -/
def step (w : Writer) (p : Pixel) : Writer :=
  if p = w.last then
    if w.run + 1 = longestRun then
      { w with run := 0, written := [runByte longestRun] :: w.written }
    else { w with run := w.run + 1 }
  else
    let w := w.endRun
    let place := place p
    if w.seen[place]? = some p then
      { w with last := p, lastPlace := some place, written := [seenByte place] :: w.written }
    else
      { w with
        seen := w.seen.setIfInBounds place p
        last := p
        lastPlace := some place
        written := changed w.last p :: w.written }

/-- The bytes that every file begins with. -/
def signature : Bytes := Bytes.ofText "qoif"

/-- The bytes that every file ends with. -/
def ending : Bytes := [0, 0, 0, 0, 0, 0, 0, 1]

/-- **The file of a picture.** -/
def encode (p : Picture) : Bytes :=
  let w := p.toRgba8.grid.cells.foldl step {}
  let last := if w.run = 0 then [] else [runByte w.run]
  signature ++ Bytes.bigEndian 4 p.width ++ Bytes.bigEndian 4 p.height ++
    [if p.colour.hasAlpha then 4 else 3, 0] ++ w.written.reverse.flatten ++ last ++ ending

/-! ## (3) Reading -/

/-- The channels moved by differences modulo 256. -/
def moved (p : Pixel) (red green blue : Nat) : Pixel :=
  { p with
    red := (p.red + red) % 256, green := (p.green + green) % 256, blue := (p.blue + blue) % 256 }

/-- A pixel that is not a repetition, from its first byte, and the rest. -/
def pixel? (alpha : Bool) (seen : Array Pixel) (last : Pixel) (first : Nat) (rest : Bytes) :
    Option (Pixel × Bytes) :=
  if first < 0x40 then some (seen.getD first .clear, rest)
  else if first < 0x80 then
    some (moved last (first / 16 % 4 + 254) (first / 4 % 4 + 254) (first % 4 + 254), rest)
  else if first < 0xc0 then
    match rest with
    | [] => none
    | b :: rest =>
      let green := first % 64 + 224
      some (moved last (green + b.toNat / 16 + 248) green (green + b.toNat % 16 + 248), rest)
  else
    match decide (first = 0xff), rest with
    | false, r :: g :: b :: rest => some (⟨r.toNat, g.toNat, b.toNat, last.alpha⟩, rest)
    | true, r :: g :: b :: a :: rest =>
      if alpha then some (⟨r.toNat, g.toNat, b.toNat, a.toNat⟩, rest) else none
    | _, _ => none

/-- **So many pixels of bytes**, after those that are read, and the rest. -/
def pixelsFrom (alpha : Bool) (left : Nat) (seen : Array Pixel) (last : Pixel)
    (done : Array Pixel) (b : Bytes) : Option (Array Pixel × Bytes) :=
  match left, b with
  | 0, rest => some (done, rest)
  | _, [] => none
  | left + 1, first :: rest =>
    let first := first.toNat
    if 0xc0 ≤ first ∧ first < 0xfe then
      let more := min (first - 0xc0) left
      pixelsFrom alpha (left - more) seen last (done ++ Array.replicate (more + 1) last) rest
    else
      match pixel? alpha seen last first rest with
      | none => none
      | some (p, rest) =>
        let seen := if first < 0x40 then seen else seen.setIfInBounds (place p) p
        pixelsFrom alpha left seen p (done.push p) rest
  termination_by left
  decreasing_by all_goals omega

/-- **The picture of a file.** -/
def decode? (b : Bytes) : Option Picture := do
  let b ← Bytes.after? signature b
  let (w, b) ← Bytes.big? 4 b
  let (h, b) ← Bytes.big? 4 b
  let (channels, b) ← Bytes.big? 1 b
  let (space, b) ← Bytes.big? 1 b
  guard (w * h ≠ 0 ∧ (channels = 3 ∨ channels = 4) ∧ space ≤ 1)
  let alpha := decide (channels = 4)
  let seen := if alpha then noneSeen else Array.replicate 64 black
  let (pixels, b) ← pixelsFrom alpha (w * h) seen black #[] b
  guard (ending.isPrefixOf b)
  let p : Picture := ⟨.rgba8, Grid.ofFn w h fun x y => pixels.getD (y * w + x) default⟩
  return if alpha then p else p.toRgb8

end Qoi

end MediaTransform
