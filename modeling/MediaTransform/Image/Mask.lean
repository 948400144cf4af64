import MediaTransform.Image.Contour
import MediaTransform.Image.Edges
import MediaTransform.Image.Picture

/-! # Foreground masks

* **`Mask.fillContour`** — fills a border and marks its points.
* **`Mask.foreground`** — everything inside the outermost borders of the edges of a picture.
* **`Mask.apply`** — a picture with everything else made transparent. -/

namespace MediaTransform

/-- A mask: which points are foreground. -/
abbrev Mask := Grid Bool

namespace Mask

/-! ## (1) Polygons -/

/-- The points without those that repeat the one before. -/
def dropRepeats : List Point → List Point
  | [] => []
  | [p] => [p]
  | p :: q :: rest => if p = q then dropRepeats (q :: rest) else p :: dropRepeats (q :: rest)

/-- The points without those at the end that equal the first one, of which one always stays. -/
def openEnd : List Point → List Point
  | [] => []
  | p :: rest => p :: (rest.reverse.dropWhile (· = p)).reverse

/-- **The polygon of a border**: no two neighbours are equal, the last point and the first one
included. -/
def polygonOf (points : List Point) : List Point := openEnd (dropRepeats points)

/-- The edges of a polygon, the closing one last. -/
def edges (polygon : List Point) : List (Point × Point) :=
  polygon.zip (polygon.drop 1 ++ polygon.take 1)

/-- The quotient of integers nearest to `num / den` for positive `den`, a half going away from
zero. -/
def nearestInt (num den : Int) : Int :=
  if num < 0 then -((2 * -num + den) / (2 * den)) else (2 * num + den) / (2 * den)

/-- **Where an edge crosses a line**: both ends of a level edge; the end on the line of an edge that
goes down from it; the point between for an edge that passes through. -/
def crossings (y : Int) (edge : Point × Point) : List Int :=
  let (p, q) := edge
  if (p.y ≤ y ∧ y ≤ q.y) ∨ (q.y ≤ y ∧ y ≤ p.y) then
    if p.y = q.y then [p.x, q.x]
    else if p.y = y ∨ q.y = y then
      -- the upper end only, as two edges that meet on the line would count twice
      (if y < q.y then [p.x] else []) ++ (if y < p.y then [q.x] else [])
    else
      let (top, bottom) := if p.y < q.y then (p, q) else (q, p)
      [top.x + nearestInt ((y - top.y) * (bottom.x - top.x)) (bottom.y - top.y)]
  else []

/-- Neighbours in a list, two by two. -/
def pairs : List Int → List (Int × Int)
  | a :: b :: rest => (a, b) :: pairs rest
  | _ => []

/-- **The spans of a polygon on a line**, both ends included. -/
def spans (polygon : List Point) (y : Int) : List (Int × Int) :=
  pairs (((edges polygon).flatMap (crossings y)).mergeSort (· ≤ ·))

/-- **The mask with the inside of a polygon marked.** -/
def fillPolygon (mask : Mask) (polygon : List Point) : Mask :=
  let rows := Array.ofFn (n := mask.height) fun y => spans polygon (y.val : Nat)
  Grid.ofFn mask.width mask.height fun x y =>
    mask.get false x y || (rows.getD y []).any fun s => s.1 ≤ (x : Int) && (x : Int) ≤ s.2

/-! ## (2) Borders -/

/-- The mask with a point marked, if it lies inside. -/
def mark (mask : Mask) (p : Point) : Mask :=
  if 0 ≤ p.x ∧ 0 ≤ p.y then mask.set p.x.toNat p.y.toNat true else mask

/-- **The mask with a border filled and its points marked.** A border of fewer than three distinct
neighbours has no inside. -/
def fillContour (mask : Mask) (points : List Point) : Mask :=
  let polygon := polygonOf points
  points.foldl mark (if 3 ≤ polygon.length then fillPolygon mask polygon else mask)

/-- The borders that lie in no other one. -/
def outermost (contours : List Contour) : List Contour :=
  contours.filter fun c => c.outer && c.parent.isNone

/-- **The foreground of a grey picture**: all that lies inside the outermost borders of its edges.
Nothing when its edges cannot be found with these thresholds. -/
def foreground (g : Grid Nat) (low high : Number) : Option Mask :=
  (Edges.detect g low high).map fun found =>
    (outermost (Contour.find found)).foldl (fun mask c => fillContour mask c.points)
      (Grid.replicate g.width g.height false)

/-! ## (3) Pictures -/

/-- **The pixels with all that is not foreground made transparent black.** -/
def apply (mask : Mask) (g : Grid Pixel) : Grid Pixel :=
  Grid.ofFn g.width g.height fun x y =>
    if mask.get false x y then g.get default x y else Pixel.clear

end Mask

end MediaTransform
