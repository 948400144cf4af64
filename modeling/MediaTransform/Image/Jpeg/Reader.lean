import MediaTransform.Image.Jpeg
import MediaTransform.Image.Jpeg.Scan

/-! # Reading JPEG files

* **`Jpeg.head?`** — what a file says before its scan.
* **`Jpeg.quality?`** — the quality that a file was written with.
* **`Jpeg.decode?`** — the picture of a file, in grey or with colour. Files whose waves come in several
  scans, and those of inks, are refused. -/

namespace MediaTransform

namespace Jpeg

/-! ## (1) Sections -/

/-- A channel as its frame lists it: its number, how many blocks it has in a unit, across and down,
and the number of its table of quantizers. -/
structure Component where
  number : Nat
  across : Nat
  down : Nat
  table : Nat

/-- **A frame**: sides and channels. -/
structure Frame where
  width : Nat
  height : Nat
  components : List Component

/-- What is known of a file while its sections are read: the frame, tables and codes by their
numbers, and how many units stand between two restarts. -/
structure Known where
  frame : Option Frame := none
  tables : List (Nat × List Nat) := []
  codes : List (Nat × Deflate.Codes) := []
  interval : Nat := 0

/-- Tables of quantizers at the front, at most `fuel` of them. -/
def tablesFrom : Nat → Bytes → List (Nat × List Nat)
  | fuel + 1, head :: b =>
    let width := if head.toNat / 16 = 0 then 1 else 2
    let values := b.take (64 * width)
    (head.toNat % 16, if width = 1 then values.map (·.toNat) else Bytes.pairs values) ::
      tablesFrom fuel (b.drop (64 * width))
  | _, _ => []

/-- Codes at the front, at most `fuel` tables of them. -/
def codesFrom : Nat → Bytes → List (Nat × Deflate.Codes)
  | fuel + 1, head :: b =>
    let counts := (b.take longestCode).map (·.toNat)
    let rest := b.drop longestCode
    (head.toNat, ⟨(0 :: counts).toArray, ((rest.take counts.sum).map (·.toNat)).toArray⟩) ::
      codesFrom fuel (rest.drop counts.sum)
  | _, _ => []

/-- So many channels at the front. -/
def componentsFrom : Nat → Bytes → Option (List Component)
  | 0, _ => some []
  | n + 1, number :: blocks :: table :: b => do
    let rest ← componentsFrom n b
    return ⟨number.toNat, blocks.toNat / 16, blocks.toNat % 16, table.toNat⟩ :: rest
  | _, _ => none

/-- The frame in the contents of its section. -/
def frameOf? (b : Bytes) : Option Frame := do
  let (bits, b) ← Bytes.big? 1 b
  let (h, b) ← Bytes.big? 2 b
  let (w, b) ← Bytes.big? 2 b
  let (count, b) ← Bytes.big? 1 b
  let components ← componentsFrom count b
  guard (bits = 8)
  return ⟨w, h, components⟩

/-- What is known with one more section; there is none if the section is a frame of another kind. -/
def Known.add? (k : Known) (mark : UInt8) (contents : Bytes) : Option Known :=
  if mark = 0xdb then some { k with tables := tablesFrom contents.length contents ++ k.tables }
  else if mark = 0xc4 then some { k with codes := codesFrom contents.length contents ++ k.codes }
  else if mark = 0xc0 ∨ mark = 0xc1 then
    (frameOf? contents).map fun frame => { k with frame := some frame }
  else if mark = 0xdd then some { k with interval := Bytes.ofBigEndian contents }
  else if 0xc2 ≤ mark ∧ mark ≤ 0xcf then none
  else some k

/-- **What a file says before its scan**: what is known, the head of the scan and all bytes after
it. -/
structure Head where
  known : Known
  selection : Bytes
  scan : Bytes

/-- The head of sections up to the scan, at most `fuel` of them. -/
def headFrom : Nat → Known → Bytes → Option Head
  | 0, _, _ => none
  | fuel + 1, k, b =>
    match b with
    | 0xff :: 0xff :: b => headFrom fuel k (0xff :: b)
    | 0xff :: mark :: b => do
      let (length, _) ← Bytes.big? 2 b
      let (section_, rest) ← Bytes.cut? (max length 2) b
      let contents := section_.drop 2
      if mark = 0xda then return ⟨k, contents, rest⟩
      else headFrom fuel (← k.add? mark contents) rest
    | _ => none

/-- **What a file says before its scan.** -/
def head? (b : Bytes) : Option Head := do
  let b ← Bytes.after? [0xff, 0xd8] b
  headFrom (b.length + 1) {} b

/-- **The lowest quality that a file may have been written with**, by the table of its first
channel. -/
def quality? (b : Bytes) : Option Nat := do
  let head ← head? b
  let frame ← head.known.frame
  let first ← frame.components.head?
  qualityOf? (← head.known.tables.lookup first.table)

/-! ## (2) Pictures -/

/-- A table from the order in which it is written. -/
def ofWaveOrder (table : List Nat) : Array Nat :=
  (waveOrder.zip table).foldl (fun a e => a.setIfInBounds e.1 e.2) (Array.replicate 64 1)

/-- The numbers of the codes of a channel in the head of a scan of all channels. -/
def selected? (selection : Bytes) (number : Nat) : Option Nat :=
  let pairs := Bytes.pairs (selection.drop 1)
  ((pairs.map fun p => (p / 256, p % 256)).take (selection.headD 0).toNat).lookup number

/-- How a channel of a frame is read. A channel that is the only one has blocks of its own. -/
def readerOf? (head : Head) (alone : Bool) (c : Component) : Option ChannelReader := do
  let table ← head.known.tables.lookup c.table
  let codes ← selected? head.selection c.number
  let steps ← head.known.codes.lookup (codes / 16)
  let waves ← head.known.codes.lookup (16 + codes % 16)
  guard (1 ≤ c.across ∧ c.across ≤ 4 ∧ 1 ≤ c.down ∧ c.down ≤ 4)
  let (across, down) := if alone then (1, 1) else (c.across, c.down)
  return ⟨across, down, ofWaveOrder table, steps, waves⟩

/-- The value of a channel at a position, of blocks that come in units; a value of a channel with
fewer ones counts for all positions that it covers, without smoothing between them. -/
def valueAt (units : Array (Array (Array Nat))) (unitsAcross most mostDown before : Nat)
    (c : ChannelReader) (x y : Nat) : Nat :=
  let (x, y) := (x * c.across / most, y * c.down / mostDown)
  let (i, j) := (x / 8, y / 8)
  let blocks := units.getD (j / c.down * unitsAcross + i / c.across) #[]
  let block := blocks.getD (before + j % c.down * c.across + i % c.across) #[]
  block.getD (8 * (y % 8) + x % 8) 0

/-- **The picture of a file**, of one channel or of three. -/
def decode? (b : Bytes) : Option Picture := do
  let head ← head? b
  let frame ← head.known.frame
  let (w, h) := (frame.width, frame.height)
  let alone := decide (frame.components.length = 1)
  let readers ← frame.components.mapM (readerOf? head alone)
  guard (w ≠ 0 ∧ h ≠ 0 ∧ Picture.isReadable ⟨false, !alone, false⟩ w h)
  let most := (readers.map (·.across)).foldl max 1
  let mostDown := (readers.map (·.down)).foldl max 1
  let unitsAcross := (w + 8 * most - 1) / (8 * most)
  let unitsDown := (h + 8 * mostDown - 1) / (8 * mostDown)
  let units ← units? readers head.known.interval (unitsAcross * unitsDown) head.scan
  let value (before : Nat) (c : ChannelReader) : Nat → Nat → Nat :=
    valueAt units unitsAcross most mostDown before c
  match readers with
  | [y] =>
    let grey := value 0 y
    return ⟨⟨false, false, false⟩, Grid.ofFn w h fun i j => ⟨grey i j, grey i j, grey i j, 255⟩⟩
  | [y, b, r] =>
    let blues := y.across * y.down
    let brightness := value 0 y
    let blueness := value blues b
    let redness := value (blues + b.across * b.down) r
    return ⟨.rgb8, Grid.ofFn w h fun i j => pixelOf (brightness i j) (blueness i j) (redness i j)⟩
  | _ => none

end Jpeg

end MediaTransform
