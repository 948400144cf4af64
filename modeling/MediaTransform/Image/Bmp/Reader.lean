import MediaTransform.Image.Bmp

/-! # Reading BMP files

* **`Bmp.Header`**, **`Bmp.header?`** — what a file says of its pixels.
* **`Bmp.Layout.pixelAt`** — a pixel in a raster of lines; **`Bmp.runsFrom`** — pixels that are stored
  as runs.
* **`Bmp.decode?`** — the picture of a file.
* **`Bmp.inIcon?`** — the picture in an icon, with its mask. -/

namespace MediaTransform

namespace Bmp

/-! ## (1) Headers -/

/-- The bits of a channel in a pixel: where they begin and how many there are, at most eight. -/
structure Field where
  shift : Nat
  length : Nat
  deriving DecidableEq

/-- Where the lowest set bit of a number is. -/
def lowestBit (n : Nat) : Nat := (List.range 32).findIdx fun i => n / 2 ^ i % 2 = 1

/-- The field of a mask, which must be one run of bits; only its highest eight bits count. -/
def Field.ofMask? (pixelBits mask : Nat) : Option Field :=
  if mask = 0 then some ⟨0, 0⟩
  else
    let shift := lowestBit mask
    let run := mask / 2 ^ shift
    let length := (List.range 33).findIdx fun i => run / 2 ^ i % 2 = 0
    if run ≠ 2 ^ length - 1 ∨ pixelBits < length + shift then none
    else some ⟨shift + (length - 8), min length 8⟩

/-- **The channel of a pixel**, brought to eight bits and rounded; seven bits repeat their highest. -/
def Field.read (f : Field) (pixel : Nat) : Nat :=
  let v := pixel / 2 ^ f.shift % 2 ^ f.length
  let limit := 2 ^ f.length - 1
  if f.length = 7 then 2 * v + v / 64 else (255 * v + limit / 2) / limit

/-- How pixels are stored. -/
inductive Layout where
  /-- Numbers of a few bits in a table of colours. -/
  | indexed (bits : Nat) (table : Array Pixel)
  /-- Runs of numbers of four or eight bits in a table of colours. -/
  | runs (wide : Bool) (table : Array Pixel)
  /-- Channels in so many bytes. -/
  | fields (size : Nat) (red green blue : Field) (alpha : Option Field)

/-- **What a file says of its pixels.** -/
structure Header where
  width : Nat
  height : Nat
  topDown : Bool
  layout : Layout

/-- The longest side. -/
def sideLimit : Nat := 65535

/-- Masks of the channels at the front. -/
def masks? (size : Nat) (hasAlpha : Bool) (b : Bytes) : Option Layout := do
  let (r, b) ← Bytes.little? 4 b
  let (g, b) ← Bytes.little? 4 b
  let (bl, b) ← Bytes.little? 4 b
  let a ← if hasAlpha then (Bytes.little? 4 b).map (·.1) else some 0
  guard (r ≠ 0 ∧ g ≠ 0 ∧ bl ≠ 0)
  let field := Field.ofMask? (8 * size)
  let alpha ← field a
  return .fields size (← field r) (← field g) (← field bl)
    (if alpha.length = 0 then none else some alpha)

/-- The number of colours of a table. -/
def tableSize (bits used : Nat) : Nat := if used = 0 then 2 ^ bits else used

/-- A table of colours at the front, with so many bytes for each of them; it has room for 256. -/
def table? (bits used entryBytes : Nat) (b : Bytes) : Option (Array Pixel) := do
  let count := tableSize bits used
  guard (count ≤ 2 ^ bits)
  let (entries, _) ← b.cut? (count * entryBytes)
  let entries := entries.toArray
  let part (i k : Nat) : Nat := (entries.getD (entryBytes * i + k) 0).toNat
  return Array.ofFn (n := 256) fun i => ⟨part i 2, part i 1, part i 0, 255⟩

/-- Blue, green and red, one byte each, in so many bytes, and maybe alpha in the fourth. -/
def plainLayout (size : Nat) (hasAlpha : Bool) : Layout :=
  .fields size ⟨16, 8⟩ ⟨8, 8⟩ ⟨0, 8⟩ (if hasAlpha then some ⟨24, 8⟩ else none)

/-- Five bits for each channel. -/
def shortLayout : Layout := .fields 2 ⟨10, 5⟩ ⟨5, 5⟩ ⟨0, 5⟩ none

/-- The oldest header, after its size. -/
def oldHeader? (b : Bytes) : Option Header := do
  let (w, b) ← Bytes.little? 2 b
  let (h, b) ← Bytes.little? 2 b
  let (planes, b) ← Bytes.little? 2 b
  let (bits, b) ← Bytes.little? 2 b
  guard (planes = 1)
  let layout ←
    if [1, 4, 8].contains bits then (table? bits 0 3 b).map (.indexed bits)
    else if bits = 24 then some (plainLayout 3 false)
    else none
  return ⟨w, h, false, layout⟩

/-- The layout for a number of bits and a method of storing them; in an icon four bytes have alpha. -/
def layout? (icon : Bool) (headerSize bits method used : Nat) (afterHeader afterShort : Bytes) :
    Option Layout :=
  match method, bits with
  | 0, 16 => some shortLayout
  | 0, 24 => some (plainLayout 3 false)
  | 0, 32 => some (plainLayout 4 icon)
  | 0, bits =>
    if [1, 2, 4, 8].contains bits then (table? bits used 4 afterHeader).map (.indexed bits) else none
  | 1, 8 => (table? 8 used 4 afterHeader).map (.runs true)
  | 2, 4 => (table? 4 used 4 afterHeader).map (.runs false)
  | 3, 16 => masks? 2 (decide (56 ≤ headerSize)) afterShort
  | 3, 32 => masks? 4 (decide (56 ≤ headerSize)) afterShort
  | _, _ => none

/-- How many bytes lie between a newer header and the pixels if nothing else is said: the table of
colours, or masks that are not in the header. -/
def afterHeaderSize (headerSize bits method used : Nat) : Nat :=
  if method = 3 then (if headerSize = shortHeaderSize then 12 else 0)
  else if bits ≤ 8 then 4 * tableSize bits used
  else 0

/-- The newer headers, after their size, and how many bytes of them and of what belongs to them come
before the pixels. -/
def newHeader? (icon : Bool) (headerSize : Nat) (b : Bytes) : Option (Header × Nat) := do
  let afterHeader := b.drop (headerSize - 4)
  let (w, b) ← Bytes.little? 4 b
  let (h, b) ← Bytes.little? 4 b
  let (planes, b) ← Bytes.little? 2 b
  let (bits, b) ← Bytes.little? 2 b
  let (method, b) ← Bytes.little? 4 b
  let (_, b) ← Bytes.cut? 12 b
  let (used, b) ← Bytes.little? 4 b
  let (_, b) ← Bytes.cut? 4 b
  let topDown := decide (2 ^ 31 ≤ h)
  let h := if topDown then 2 ^ 32 - h else h
  guard (planes = 1 ∧ w ≤ sideLimit ∧ h ≤ sideLimit ∧ ¬(topDown ∧ (method = 1 ∨ method = 2)))
  let layout ← layout? icon headerSize bits method used afterHeader b
  return (⟨w, h, topDown, layout⟩, headerSize + afterHeaderSize headerSize bits method used)

/-- The sizes of the newer headers. -/
def newSizes : List Nat := [40, 52, 56, 108, 124]

/-- **What a file says of its pixels**, and where they begin. -/
def header? (b : Bytes) : Option (Header × Nat) := do
  let b ← Bytes.after? signature b
  let (_, b) ← Bytes.cut? 8 b
  let (start, b) ← Bytes.little? 4 b
  let (size, b) ← Bytes.little? 4 b
  if size = 12 then return (← oldHeader? b, start)
  else if newSizes.contains size then return ((← newHeader? false size b).1, start)
  else none

/-! ## (2) Pixels -/

/-- The number of bits of a pixel. -/
def Layout.pixelBits : Layout → Nat
  | indexed bits _ => bits
  | runs wide _ => if wide then 8 else 4
  | fields size _ _ _ _ => 8 * size

/-- Whether pixels have alpha. -/
def Layout.hasAlpha : Layout → Bool
  | fields _ _ _ _ (some _) => true
  | _ => false

/-- **The pixel at a column** of a line that begins at a byte. -/
def Layout.pixelAt (l : Layout) (raster : Array UInt8) (start x : Nat) : Pixel :=
  match l with
  | indexed bits table =>
    let byte := (raster.getD (start + x * bits / 8) 0).toNat
    table.getD (byte / 2 ^ (8 - bits - x * bits % 8) % 2 ^ bits) default
  | runs _ _ => default
  | fields size red green blue alpha =>
    let v := Bytes.ofLittleEndian ((List.range size).map fun k =>
      raster.getD (start + x * size + k) 0)
    ⟨red.read v, green.read v, blue.read v, (alpha.map (·.read v)).getD 255⟩

/-- Pixels with others put from a place on. -/
def putFrom (place : Nat) (run : List Pixel) (pixels : Array Pixel) : Array Pixel :=
  run.zipIdx.foldl (fun all e => all.setIfInBounds (place + e.2) e.1) pixels

/-- The first `n` colours whose numbers are in bytes, one or two of them in each. -/
def coloursOf (wide : Bool) (table : Array Pixel) (n : Nat) (b : Bytes) : List Pixel :=
  let numbers := if wide then b.map (·.toNat) else b.flatMap fun x => [x.toNat / 16, x.toNat % 16]
  (numbers.take n).map fun k => table.getD k default

/-- **Pixels that are stored as runs**, from a column and a line on. A run must end in its line, and
what is left out stays as it was. -/
def runsFrom (wide : Bool) (table : Array Pixel) (w h : Nat) :
    Nat → Nat → Nat → Bytes → Array Pixel → Option (Array Pixel)
  | 0, _, _, _, _ => none
  | fuel + 1, x, y, b, pixels =>
    if h ≤ y then some pixels
    else
      let put (n : Nat) (numbers rest : Bytes) : Option (Array Pixel) :=
        if w < x + n then none
        else
          runsFrom wide table w h fuel (x + n) y rest
            (putFrom (y * w + x) (coloursOf wide table n numbers) pixels)
      match b with
      | 0 :: 0 :: rest => runsFrom wide table w h fuel 0 (y + 1) rest pixels
      | 0 :: 1 :: _ => some pixels
      | 0 :: 2 :: right :: up :: rest =>
        let (x, next) := (x + right.toNat, y + up.toNat)
        if w < x ∨ h ≤ next then none else runsFrom wide table w h fuel x next rest pixels
      | [0, 2] => none
      | [0, 2, _] => none
      | 0 :: n :: rest => do
        let size := if wide then n.toNat else (n.toNat + 1) / 2
        let (numbers, rest) ← Bytes.cut? (size + size % 2) rest
        put n.toNat numbers rest
      | n :: number :: rest => put n.toNat (List.replicate n.toNat number) rest
      | _ => none

/-- The number of bytes of the lines of a header. -/
def Header.lineBytes (h : Header) : Nat := (h.width * h.layout.pixelBits + 31) / 32 * 4

/-- The line of a file that a line of the picture is. -/
def Header.lineOf (h : Header) (y : Nat) : Nat := if h.topDown then y else h.height - 1 - y

/-- **The pixels of a header** that begin at the front. -/
def Header.grid? (h : Header) (b : Bytes) : Option (Grid Pixel) :=
  match h.layout with
  | .runs wide table => do
    let black : Pixel := ⟨0, 0, 0, 255⟩
    let pixels ← runsFrom wide table h.width h.height (b.length + 1) 0 0 b
      (Array.replicate (h.width * h.height) black)
    return Grid.ofFn h.width h.height fun x y => pixels.getD (h.lineOf y * h.width + x) black
  | layout => do
    let (raster, _) ← Bytes.cut? (h.lineBytes * h.height) b
    let raster := raster.toArray
    return Grid.ofFn h.width h.height fun x y =>
      layout.pixelAt raster (h.lineOf y * h.lineBytes) x

/-! ## (3) Files -/

/-- **The picture of a file.** -/
def decode? (b : Bytes) : Option Picture := do
  let (h, start) ← header? b
  return ⟨⟨false, true, h.layout.hasAlpha⟩, ← h.grid? (b.drop start)⟩

/-- The pixels with those of a mask made clear. A mask has a bit for each pixel, in lines from the
bottom to the top. -/
def masked (g : Grid Pixel) (mask : Array UInt8) : Grid Pixel :=
  Grid.ofFn g.width g.height fun x y =>
    let p := g.get default x y
    let byte := (mask.getD ((g.height - 1 - y) * ((g.width + 31) / 32 * 4) + x / 8) 0).toNat
    if byte / 2 ^ (7 - x % 8) % 2 = 1 then { p with alpha := 0 } else p

/-- **The picture in an icon** of a number of bytes: a header whose height counts the picture and its
mask, the pixels, and maybe the mask. -/
def inIcon? (b : Bytes) (size : Nat) : Option Picture := do
  let (headerSize, rest) ← Bytes.little? 4 b
  guard (newSizes.contains headerSize)
  let (h, start) ← newHeader? true headerSize rest
  let h := { h with height := h.height / 2 }
  let grid ← h.grid? (b.drop start)
  let stop := start + h.lineBytes * h.height
  let maskSize := (h.width + 31) / 32 * 4 * h.height
  if stop + maskSize ≤ size then
    let (mask, _) ← Bytes.cut? maskSize (b.drop stop)
    return ⟨.rgba8, masked grid mask.toArray⟩
  else if size = stop then return ⟨.rgba8, grid⟩
  else none

end Bmp

end MediaTransform
