import MediaTransform.Image.Grid
import MediaTransform.Number.Single

/-! # Edges of a grey picture

The Canny detector in single precision: blur, gradient, thinning and tracing between two
thresholds.

* **`Edges.detect`** — the edge points, or nothing when the thresholds cannot be used: when the
  upper one is not at least the lower one, or when tracing with a lower threshold that is not
  positive runs over the border of the picture. -/

namespace MediaTransform

namespace Edges

/-! ## (1) Blur -/

/-- The value at a position that is moved to the nearest one inside. -/
def clamped {α : Type} (g : Grid α) (default : α) (x y : Int) : α :=
  g.get default (min x.toNat (g.width - 1)) (min y.toNat (g.height - 1))

/-- The weights of the blur. -/
def blurWeights : List Float32 :=
  [0x3ced8779, 0x3dd49eb8, 0x3e64878f, 0x3e937826, 0x3e64878f, 0x3dd49eb8, 0x3ced8779].map
    Float32.ofBits

/-- The weighted sum of seven values, cut to a whole number of 8 bits. -/
def blurSum (value : Int → Nat) : Nat :=
  let sum := (blurWeights.zip (List.range 7)).foldl
    (fun (s : Float32) wi => s + wi.1 * Float32.ofNat (value ((wi.2 : Int) - 3))) 0
  sum.toUInt8.toNat

/-- **The blurred picture**, rows first. -/
def blur (g : Grid Nat) : Grid Nat :=
  let across := Grid.ofFn g.width g.height fun x y =>
    blurSum fun k => clamped g 0 ((x : Int) + k) (y : Int)
  Grid.ofFn g.width g.height fun x y => blurSum fun k => clamped across 0 (x : Int) ((y : Int) + k)

/-! ## (2) Gradient -/

/-- The change of a picture to the right and downward at a position. -/
structure Gradient where
  right : Int
  down : Int
  deriving Inhabited

/-- The gradient at a position, by the Sobel weights. -/
def gradientAt (g : Grid Nat) (x y : Nat) : Gradient :=
  let v (dx dy : Int) : Int := (clamped g 0 ((x : Int) + dx) ((y : Int) + dy) : Nat)
  ⟨(v 1 (-1) + 2 * v 1 0 + v 1 1) - (v (-1) (-1) + 2 * v (-1) 0 + v (-1) 1),
    (v (-1) 1 + 2 * v 0 1 + v 1 1) - (v (-1) (-1) + 2 * v 0 (-1) + v 1 (-1))⟩

/-- An integer as a float. -/
def ofInt (n : Int) : Float32 := if n < 0 then -(Float32.ofNat n.natAbs) else Float32.ofNat n.natAbs

/-- The length of a gradient. -/
def Gradient.length (d : Gradient) : Float32 :=
  (Float32.ofNat (d.right * d.right + d.down * d.down).natAbs).sqrt

/-- The direction of a gradient in degrees, from 0 to 180. -/
def Gradient.angle (d : Gradient) : Float32 :=
  let degrees := Float32.atan2 (ofInt d.down) (ofInt d.right) * 57.2957795130823208768
  if degrees < 0 then degrees + 180 else degrees

/-! ## (3) Thinning -/

/-- The step toward one of the two neighbours along a gradient. -/
def neighbourStep (angle : Float32) : Int × Int :=
  if angle < 22.5 || 157.5 ≤ angle then (1, 0)
  else if angle < 67.5 then (1, 1)
  else if angle < 112.5 then (0, 1)
  else (-1, 1)

/-- **The strengths of the thinned edges**: a point counts unless a neighbour along its gradient is
stronger; the border of the picture does not count. -/
def thin (gradients : Grid Gradient) : Grid Float32 :=
  let lengths := gradients.map Gradient.length
  Grid.ofFn gradients.width gradients.height fun x y =>
    if 0 < x ∧ 0 < y ∧ x + 1 < gradients.width ∧ y + 1 < gradients.height then
      let here := lengths.get 0 x y
      let (dx, dy) := neighbourStep (gradients.get default x y).angle
      let one := clamped lengths 0 ((x : Int) + dx) ((y : Int) + dy)
      let other := clamped lengths 0 ((x : Int) - dx) ((y : Int) - dy)
      if here < one || here < other then 0 else here
    else 0

/-! ## (4) Tracing -/

/-- The neighbours that tracing looks at. -/
def tracedSteps : List (Int × Int) := [(1, 0), (1, 1), (0, 1), (-1, -1), (-1, 0), (-1, 1)]

/-- Looks at one neighbour: marks it and puts it on the stack when it is strong enough and new.
Nothing when it lies outside. -/
def look (strengths : Grid Float32) (low : Float32) (x y : Int)
    (state : Option (Grid Bool × List (Int × Int))) : Option (Grid Bool × List (Int × Int)) :=
  match state with
  | none => none
  | some (marks, stack) =>
    if x < 0 ∨ y < 0 then none
    else
      match strengths.at? x.toNat y.toNat, marks.at? x.toNat y.toNat with
      | some v, some marked =>
        if low ≤ v && !marked then some (marks.set x.toNat y.toNat true, (x, y) :: stack)
        else some (marks, stack)
      | _, _ => none

/-- Follows an edge from the points on the stack. Every point is put there at most once. -/
def follow (strengths : Grid Float32) (low : Float32) :
    Nat → Grid Bool → List (Int × Int) → Option (Grid Bool)
  | 0, marks, _ => some marks
  | _, marks, [] => some marks
  | fuel + 1, marks, (x, y) :: stack =>
    -- the neighbours go on the stack together, so the last one of them is followed first
    match tracedSteps.foldl (fun s d => look strengths low (x + d.1) (y + d.2) s)
        (some (marks, stack)) with
    | none => none
    | some (marks, stack) => follow strengths low fuel marks stack

/-- Follows the edge from the `i`-th point, if that is a new inner point at least as strong as the
upper threshold. -/
def traceFrom (strengths : Grid Float32) (low high : Float32) (marks : Grid Bool) (i : Nat) :
    Option (Grid Bool) :=
  let w := strengths.width
  let x := i % w
  let y := i / w
  if 0 < x ∧ 0 < y ∧ x + 1 < w ∧ y + 1 < strengths.height then
    if high ≤ strengths.get 0 x y && !marks.get false x y then
      follow strengths low (w * strengths.height + 1) (marks.set x y true) [((x : Int), (y : Int))]
    else some marks
  else some marks

/-- **The edges between two thresholds**: every inner point at least as strong as the upper one, and
what can be followed from there at the lower one. -/
def trace (strengths : Grid Float32) (low high : Float32) : Option (Grid Bool) :=
  (List.range (strengths.width * strengths.height)).foldlM (traceFrom strengths low high)
    (Grid.replicate strengths.width strengths.height false)

/-- **The edge points of a grey picture.** -/
def detect (g : Grid Nat) (low high : Number) : Option (Grid Bool) :=
  if low ≤ high then
    let blurred := blur g
    let gradients := Grid.ofFn g.width g.height (gradientAt blurred)
    trace (thin gradients) low.toFloat32 high.toFloat32
  else none

end Edges

end MediaTransform
