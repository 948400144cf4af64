import MediaTransform.Image.Grid

/-! # Contours of a black and white picture

Border following after Suzuki and Abe, with eight neighbours.

* **`Contour`** — the points of a border, whether it is an outer one, and the border around it.
* **`Contour.find`** — all borders, in the order of their first points. -/

namespace MediaTransform

/-- A point of the plane; the second coordinate grows downward. -/
structure Point where
  x : Int
  y : Int
  deriving DecidableEq, Repr, Inhabited

/-- **A border.** -/
structure Contour where
  points : List Point
  /-- The border around a figure, not the one around a hole. -/
  outer : Bool
  /-- The index of the border that this one lies in. -/
  parent : Option Nat
  deriving DecidableEq, Repr, Inhabited

namespace Contour

/-! ## (1) Directions -/

/-- The eight directions, clockwise from the left. -/
def directions : List (Int × Int) :=
  [(-1, 0), (-1, -1), (0, -1), (1, -1), (1, 0), (1, 1), (0, 1), (-1, 1)]

/-- The directions from the one that leads from `centre` to `target` on. -/
def directionsFrom (centre target : Point) : List (Int × Int) :=
  let d := (target.x - centre.x, target.y - centre.y)
  directions.dropWhile (· ≠ d) ++ directions.takeWhile (· ≠ d)

/-- The point in a direction. -/
def Point.step (p : Point) (d : Int × Int) : Point := ⟨p.x + d.1, p.y + d.2⟩

/-! ## (2) The picture while borders are found -/

/-- The mark at a point: 0 is background, 1 an unvisited figure, and a border number marks a
visited point, negative where the border has background on its right. -/
def markAt (marks : Grid Int) (p : Point) : Int :=
  if p.x < 0 ∨ p.y < 0 then 0 else marks.get 0 p.x.toNat p.y.toNat

/-- The picture with the mark at a point replaced. -/
def setMark (marks : Grid Int) (p : Point) (v : Int) : Grid Int :=
  if p.x < 0 ∨ p.y < 0 then marks else marks.set p.x.toNat p.y.toNat v

/-- What is known between two points of the scan. -/
structure Scan where
  marks : Grid Int
  /-- The number of the last border. -/
  number : Nat
  /-- The number of the last border met on this row. -/
  around : Nat
  found : Array Contour

/-! ## (3) Following a border -/

/-- The first point of the figure among directions, and whether the right was passed before it. -/
def firstFigure (marks : Grid Int) (centre : Point) :
    List (Int × Int) → Bool → Option (Point × Bool)
  | [], _ => none
  | d :: rest, passed =>
    if markAt marks (Point.step centre d) ≠ 0 then some (Point.step centre d, passed)
    else firstFigure marks centre rest (passed || d == (1, 0))

/-- Follows a border from `here`, having come from `before`, until it closes. -/
def follow (number : Int) (start second : Point) :
    Nat → Grid Int → Point → Point → List Point → Grid Int × List Point
  | 0, marks, _, _, done => (marks, done)
  | fuel + 1, marks, before, here, done =>
    match firstFigure marks here (directionsFrom here before).reverse false with
    | none => (marks, here :: done)
    | some (next, passed) =>
      -- marked so that the scan does not begin a border of a hole here once more
      let marks :=
        if here.x + 1 = marks.width ∨ passed then setMark marks here (-number)
        else if markAt marks here = 1 then setMark marks here number
        else marks
      if next = start ∧ here = second then (marks, here :: done)
      else follow number start second fuel marks here next (here :: done)

/-- **The border that begins at `start`** with background at `beside`. -/
def traceFrom (marks : Grid Int) (number : Int) (start beside : Point) : Grid Int × List Point :=
  match firstFigure marks start (directionsFrom start beside) false with
  | none => (setMark marks start (-number), [start])
  | some (second, _) =>
    let (marks, points) :=
      follow number start second (8 * marks.width * marks.height + 8) marks second start []
    (marks, points.reverse)

/-! ## (4) The scan -/

/-- The border around a new one, from the last border met: that one if the two are of different
kinds, else the one around it. -/
def parentOf (found : Array Contour) (around : Nat) (outer : Bool) : Option Nat :=
  if around ≤ 1 then none
  else
    match found[around - 2]? with
    | none => none
    | some c => if c.outer ≠ outer then some (around - 2) else c.parent

/-- A new border. -/
def Scan.add (s : Scan) (start beside : Point) (outer : Bool) (around : Nat) : Scan :=
  let number := s.number + 1
  let (marks, points) := traceFrom s.marks number start beside
  ⟨marks, number, around, s.found.push ⟨points, outer, parentOf s.found around outer⟩⟩

/-- One point of the scan. -/
def Scan.visit (s : Scan) (p : Point) : Scan :=
  let s := if p.x = 0 then { s with around := 1 } else s
  let v := markAt s.marks p
  if v = 0 then s
  else
    let left : Point := ⟨p.x - 1, p.y⟩
    let right : Point := ⟨p.x + 1, p.y⟩
    -- background on the left of a new figure: an outer border; background on the right: one of a hole
    let s :=
      if v = 1 ∧ 0 < p.x ∧ markAt s.marks left = 0 then s.add p left true s.around
      else if 0 < v ∧ p.x + 1 < s.marks.width ∧ markAt s.marks right = 0 then
        s.add p right false (if 1 < v then v.toNat else s.around)
      else s
    -- following the border has marked this point
    let v := markAt s.marks p
    if v ≠ 1 then { s with around := v.natAbs } else s

/-- **All borders of the figures in a picture.** -/
def find (g : Grid Bool) : List Contour :=
  let start : Scan := ⟨g.map fun b => if b then 1 else 0, 1, 1, #[]⟩
  ((List.range (g.width * g.height)).foldl
    (fun s i => s.visit ⟨(i % g.width : Nat), (i / g.width : Nat)⟩) start).found.toList

end Contour

end MediaTransform
