import MediaTransform.Image.Picture

/-! # Tables of colours learnt from pixels

256 colours that stand for the many colours of a picture. They lie on a line. Each pixel pulls the
colour that wins it, and those beside that one, a little nearer to itself; colours that win often are
held back, so that all of them take part.

* **`ColourMap.Learner`** — the colours while they are learnt; `Learner.meet` shows them a pixel.
* **`ColourMap.ofPixels`** — the learnt colours, sorted by green.
* **`ColourMap.nearest`** — the number of the colour that stands for a pixel. -/

namespace MediaTransform

/-! ## (1) The line of colours -/

namespace ColourMap

/-- The number of colours. -/
def count : Nat := 256

/-- The value at a place. -/
def valueAt (a : FloatArray) (i : Nat) : Float := if h : i < a.size then a.get i h else 0

/-- The values with one replaced. -/
def replaced (a : FloatArray) (i : Nat) (v : Float) : FloatArray :=
  if h : i < a.size then a.set i v h else a

/-- **The colours while they are learnt.** -/
structure Learner where
  /-- Blue, red, green and alpha of one colour after the other. -/
  channels : FloatArray
  /-- How often each colour wins, as a part of all contests. -/
  shares : FloatArray
  /-- What each colour is given in a contest for having won seldom. -/
  credits : FloatArray

/-- The values of a function of the place. -/
def valuesOf (n : Nat) (f : Nat → Float) : FloatArray := ⟨Array.ofFn (n := n) fun i => f i.val⟩

/-- **Greys from dark to light**, of which the darkest are clear. -/
def Learner.start : Learner where
  channels := valuesOf (4 * count) fun i =>
    if i % 4 = 3 then (if i / 4 < 16 then Float.ofNat (16 * (i / 4)) else 255)
    else Float.ofNat (i / 4)
  shares := valuesOf count fun _ => 1 / Float.ofNat count
  credits := valuesOf count fun _ => 0

/-! ## (2) Contests -/

/-- How quickly shares follow the contests. -/
def shareRate : Float := 1 / 1024

/-- A pixel as floats, in the order in which channels are compared. -/
structure Sight where
  blue : Float
  red : Float
  green : Float
  alpha : Float

/-- The sight of a pixel. -/
def Sight.ofPixel (p : Pixel) : Sight :=
  ⟨Float.ofNat p.blue, Float.ofNat p.red, Float.ofNat p.green, Float.ofNat p.alpha⟩

/-- What is known in a contest: the nearest colour so far, and the nearest one with its credit. -/
structure Contest where
  nearest : Nat
  distance : Float
  winner : Nat
  margin : Float

/-- A distance above all that occur. -/
def farAway : Float := 1e300

/-- The contest before any colour. -/
def Contest.start : Contest := ⟨0, farAway, 0, farAway⟩

/-- The contest with one more colour. -/
def Contest.add (c : Contest) (channels : FloatArray) (credit : Float) (s : Sight) (i : Nat) :
    Contest :=
  let part := (valueAt channels (4 * i) - s.blue).abs + (valueAt channels (4 * i + 1) - s.red).abs
  if part < c.distance || part < c.margin + credit then
    let distance := part + (valueAt channels (4 * i + 2) - s.green).abs +
      (valueAt channels (4 * i + 3) - s.alpha).abs
    let c := if distance < c.distance then { c with nearest := i, distance } else c
    if distance - credit < c.margin then { c with winner := i, margin := distance - credit } else c
  else c

/-- The contest with the last `n` colours, whose shares shrink and whose credits grow. -/
def contestFrom (channels : FloatArray) (s : Sight) :
    Nat → FloatArray → FloatArray → Contest → FloatArray × FloatArray × Contest
  | 0, shares, credits, c => (shares, credits, c)
  | n + 1, shares, credits, c =>
    let i := count - (n + 1)
    let credit := valueAt credits i
    let share := valueAt shares i - shareRate * valueAt shares i
    contestFrom channels s n (replaced shares i share) (replaced credits i (credit + share))
      (c.add channels credit s i)

/-! ## (3) Learning -/

/-- A channel moved towards a value. -/
def moved (channels : FloatArray) (rate : Float) (i : Nat) (v : Float) : FloatArray :=
  replaced channels i (valueAt channels i - rate * (valueAt channels i - v))

/-- A colour moved towards a sight. -/
def pulled (channels : FloatArray) (rate : Float) (s : Sight) (i : Nat) : FloatArray :=
  moved (moved (moved (moved channels rate (4 * i) s.blue) rate (4 * i + 1) s.red)
    rate (4 * i + 2) s.green) rate (4 * i + 3) s.alpha

/-- The colours beside a winner moved towards a sight: the further off, the less. Those at a distance
from `q + 1` on, `n` of them on each side, are moved. -/
def pulledBeside (rate : Float) (radius : Nat) (s : Sight) (winner : Nat) :
    Nat → Nat → FloatArray → FloatArray
  | 0, _, channels => channels
  | n + 1, q, channels =>
    let square := Float.ofNat radius * Float.ofNat radius
    let weaker := rate * (square - Float.ofNat q * Float.ofNat q) / square
    let above := if winner + 1 + q < count then pulled channels weaker s (winner + 1 + q)
      else channels
    pulledBeside rate radius s winner n (q + 1)
      (if q + 1 < winner then pulled above weaker s (winner - 1 - q) else above)

/-- **One pixel shown to the colours.** -/
def Learner.meet (l : Learner) (rate : Float) (radius : Nat) (s : Sight) : Learner :=
  let (shares, credits, c) := contestFrom l.channels s count l.shares l.credits .start
  { channels := pulledBeside rate radius s c.winner (radius - 1) 0
      (pulled l.channels rate s c.winner)
    shares := replaced shares c.nearest (valueAt shares c.nearest + shareRate)
    credits := replaced credits c.nearest (valueAt credits c.nearest - 1) }

/-- How strongly colours are pulled, in units of `2 ^ -10`, and how far beside the winner, in units of
`2 ^ -6`. -/
structure Pace where
  rate : Nat
  reach : Nat

/-- The pace at the start. -/
def Pace.start : Pace := ⟨1024, 2048⟩

/-- Both a thirtieth less. -/
def Pace.slower (p : Pace) : Pace := ⟨p.rate - p.rate / 30, p.reach - p.reach / 30⟩

/-- How far beside the winner colours are pulled; one is none. -/
def Pace.radius (p : Pace) : Nat := if p.reach / 64 ≤ 1 then 0 else p.reach / 64

/-- The step from one pixel to the next: a prime that does not divide the number of pixels. -/
def stride (n : Nat) : Nat := ([499, 491, 487].find? fun p => n % p ≠ 0).getD 503

/-- `n` more pixels shown, of which `seen` have been so far, beginning at a position. -/
def learnFrom (pixels : Array Pixel) : Nat → Nat → Nat → Pace → Learner → Learner
  | 0, _, _, _, l => l
  | n + 1, seen, position, pace, l =>
    let next := l.meet (Float.ofNat pace.rate / 1024) pace.radius
      (.ofPixel (pixels.getD position .clear))
    let often := max 1 (pixels.size / 128)
    learnFrom pixels n (seen + 1) ((position + stride pixels.size) % pixels.size)
      (if (seen + 1) % often = 0 then pace.slower else pace) next

/-! ## (4) Tables -/

/-- A float as a channel. -/
def channelOf (x : Float) : Nat := x.round.toUInt8.toNat

/-- The colours that were learnt. -/
def Learner.colours (l : Learner) : Array Pixel :=
  Array.ofFn (n := count) fun i =>
    let part (k : Nat) : Nat := channelOf (valueAt l.channels (4 * i.val + k))
    ⟨part 1, part 2, part 0, part 3⟩

/-- The place of the first colour of least green from a place on. -/
def leastGreen (a : Array Pixel) (i : Nat) : Nat :=
  (List.range (a.size - i)).foldl
    (fun best k =>
      if (a.getD (i + k) .clear).green < (a.getD best .clear).green then i + k else best) i

/-- Colours sorted by green: each place in turn takes the first of least green from there on, and that
one's place is taken by the colour that was here. -/
def sortedByGreen (a : Array Pixel) : Array Pixel :=
  (List.range a.size).foldl (fun a i => a.swapIfInBounds i (leastGreen a i)) a

/-- **The colours learnt from pixels.** -/
def ofPixels (pixels : Array Pixel) : Array Pixel :=
  sortedByGreen (learnFrom pixels pixels.size 0 0 .start .start).colours

/-- The place where the search for a green begins: in the middle of the colours that have it. -/
def entry (greens : Array Nat) (green : Nat) : Nat :=
  let before (g : Nat) : Nat := min (greens.foldl (fun n v => if v < g then n + 1 else n) 0)
    (greens.size - 1)
  (before green + before (green + 1)) / 2

/-- The square of a difference. -/
def square (a b : Nat) : Nat := (max a b - min a b) * (max a b - min a b)

/-- The square of the distance of two colours. -/
def distance (p q : Pixel) : Nat :=
  square p.green q.green + square p.red q.red + square p.blue q.blue + square p.alpha q.alpha

/-- The nearest of at most `n` colours from a place on, in one direction, if it is nearer than the
best one; the search ends where green alone is further away. -/
def searchFrom (colours : Array Pixel) (p : Pixel) (up : Bool) :
    Nat → Nat → Nat × Nat → Nat × Nat
  | 0, _, best => best
  | n + 1, i, best =>
    let c := colours.getD i .clear
    if best.2 < square c.green p.green then best
    else
      searchFrom colours p up n (if up then i + 1 else i - 1)
        (if distance c p < best.2 then (i, distance c p) else best)

/-- **The number of the colour that stands for a pixel**, of colours sorted by green; the search
begins at a place. -/
def nearest (colours : Array Pixel) (first : Nat) (p : Pixel) : Nat :=
  let best := searchFrom colours p true (colours.size - first) first (first, 2 ^ 31 - 1)
  (searchFrom colours p false first (first - 1) best).1

end ColourMap

end MediaTransform
