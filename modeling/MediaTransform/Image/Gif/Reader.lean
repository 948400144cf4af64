import MediaTransform.Image.Gif

/-! # Reading the GIF format

* **`Gif.frame?`** — the first frame of a file.
* **`Gif.decode?`** — the picture of a file: its first frame on a clear screen. -/

namespace MediaTransform

namespace Gif

/-! ## (1) Frames -/

/-- The bytes of blocks up to an empty one, of which the last ones may be missing, and the rest; at
most `fuel` blocks. -/
def blocksFrom : Nat → Bytes → Bytes × Bytes
  | fuel + 1, n :: b =>
    if n = 0 then ([], b)
    else
      let (more, rest) := blocksFrom fuel (b.drop n.toNat)
      (b.take n.toNat ++ more, rest)
  | _, b => ([], b)

/-- A table of colours where a byte of flags says that there is one, and the rest. -/
def tableOf? (flags : Nat) (b : Bytes) : Option (Option Bytes × Bytes) :=
  if flags < 0x80 then some (none, b)
  else (b.cut? (3 * 2 ^ (flags % 8 + 1))).map fun (table, b) => (some table, b)

/-- **A frame**: where it lies, its colours, the number that is clear, and its colour numbers. -/
structure Frame where
  left : Nat
  top : Nat
  width : Nat
  height : Nat
  interlaced : Bool
  palette : Array UInt8
  clear : Option Nat
  numbers : Array Nat

/-- A frame at the front, with the table of colours of the whole file. -/
def frameOf? (shared : Option Bytes) (clear : Option Nat) (b : Bytes) : Option Frame := do
  let (left, b) ← Bytes.little? 2 b
  let (top, b) ← Bytes.little? 2 b
  let (w, b) ← Bytes.little? 2 b
  let (h, b) ← Bytes.little? 2 b
  let (flags, b) ← Bytes.little? 1 b
  let (own, b) ← tableOf? flags b
  let palette ← own <|> shared
  let (size, b) ← Bytes.little? 1 b
  guard (1 ≤ size ∧ size ≤ 11)
  let numbers ← Lzw.expand? codeStyle size (w * h) (blocksFrom b.length b).1
  return ⟨left, top, w, h, decide (flags / 64 % 2 = 1), palette.toArray, clear, numbers⟩

/-- **The first frame of sections**, of which at most `fuel` come before it. A remark on the frame
may make one number clear. -/
def frameFrom (shared : Option Bytes) : Nat → Option Nat → Bytes → Option Frame
  | 0, _, _ => none
  | fuel + 1, clear, b =>
    match b with
    | 0x2c :: b => frameOf? shared clear b
    | 0x21 :: 0xf9 :: b =>
      let (remark, rest) := blocksFrom b.length b
      match remark with
      | [flags, _, _, number] =>
        frameFrom shared fuel (if flags.toNat % 2 = 1 then some number.toNat else none) rest
      | _ => none
    | 0x21 :: _ :: b => frameFrom shared fuel clear (blocksFrom b.length b).2
    | _ => none

/-! ## (2) Files -/

/-- The order in which the lines of an interlaced frame come. -/
def lineOrder (height : Nat) : List Nat :=
  [(0, 8), (4, 8), (2, 4), (1, 2)].flatMap fun (first, apart) =>
    (List.range height).filter fun y => first ≤ y && (y - first) % apart == 0

/-- The pixel of a colour number; one beyond the table is clear. -/
def Frame.pixelOf (f : Frame) (n : Nat) : Pixel :=
  if f.palette.size < 3 * n + 3 then .clear
  else
    let part (k : Nat) : Nat := (f.palette.getD (3 * n + k) 0).toNat
    ⟨part 0, part 1, part 2, if f.clear = some n then 0 else 255⟩

/-- **The picture of a file.** -/
def decode? (b : Bytes) : Option Picture := do
  let b ← Bytes.after? (Bytes.ofText "GIF89a") b <|> Bytes.after? (Bytes.ofText "GIF87a") b
  let (w, b) ← Bytes.little? 2 b
  let (h, b) ← Bytes.little? 2 b
  let (flags, b) ← Bytes.little? 1 b
  let (_, b) ← Bytes.cut? 2 b
  let (shared, b) ← tableOf? flags b
  guard (Picture.isReadable .rgba8 w h)
  let f ← frameFrom shared (b.length + 1) none b
  let order := (lineOrder f.height).toArray
  let lineAt : Array Nat :=
    if f.interlaced then
      (order.zipIdx.foldl (fun places e => places.setIfInBounds e.1 e.2)
        (Array.replicate f.height 0))
    else Array.range f.height
  return ⟨.rgba8, Grid.ofFn w h fun x y =>
    if f.left ≤ x ∧ x < f.left + f.width ∧ f.top ≤ y ∧ y < f.top + f.height then
      f.pixelOf (f.numbers.getD (lineAt.getD (y - f.top) 0 * f.width + (x - f.left)) 0)
    else .clear⟩

end Gif

end MediaTransform
