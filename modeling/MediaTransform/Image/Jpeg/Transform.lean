import MediaTransform.Number.Instances

/-! # Blocks as sums of waves

* **`Jpeg.transform`** — the waves of a block of eight by eight values, eight times as large as in
  the orthonormal form, in integers: first along rows with two more bits, then along columns, where
  these are rounded off.
* **`Jpeg.waves`** — the waves of one row.
* **`Jpeg.inverse`** — the values of waves, first along columns, then along rows. -/

namespace MediaTransform

namespace Jpeg

/-! ## (1) Values to waves -/

/-- The waves two and six, from the differences of sums of mirrored values; factors are in units of
`2 ^ -13`. -/
def evenWaves (u v : Int) : Int × Int :=
  let z := (u + v) * 4433
  (z + u * 6270, z - v * 15137)

/-- The waves one, three, five and seven, from the differences of mirrored values, with `round` added
to each. -/
def oddWaves (a b c d round : Int) : List Int :=
  let z := (a + c + b + d) * 9633 + round
  let p := (a + c) * -3196 + z
  let q := (b + d) * -16069 + z
  let s := (a + d) * -7373
  let t := (b + c) * -20995
  [a * 12299 + s + p, b * 25172 + t + q, c * 16819 + t + p, d * 2446 + s + q]

/-- **The waves of eight values.** The waves zero and four are `coarse` of a sum of the values, and all
others are rounded to units of `2 ^ cut`. -/
def waves (coarse : Int → Int) (cut : Nat) (v : List Int) : List Int :=
  match v with
  | [v0, v1, v2, v3, v4, v5, v6, v7] =>
    let (s0, s1, s2, s3) := (v0 + v7, v1 + v6, v2 + v5, v3 + v4)
    let round : Int := 2 ^ (cut - 1)
    let scaled (w : Int) : Int := w / 2 ^ cut
    let (w2, w6) := evenWaves (s0 - s3) (s1 - s2)
    match oddWaves (v0 - v7) (v1 - v6) (v2 - v5) (v3 - v4) round with
    | [w1, w3, w5, w7] =>
      [coarse (s0 + s3 + (s1 + s2)), scaled w1, scaled (w2 + round), scaled w3,
        coarse (s0 + s3 - (s1 + s2)), scaled w5, scaled (w6 + round), scaled w7]
    | _ => []
  | _ => []

/-- The values of a row. -/
def row (a : Array Int) (y : Nat) : List Int := (List.range 8).map fun x => a.getD (8 * y + x) 0

/-- **The waves of a block**, row by row; values are taken around 128. -/
def transform (values : Array Int) : Array Int :=
  let alongRows := ((List.range 8).flatMap fun y =>
    waves (· * 4) 11 ((row values y).map (· - 128))).toArray
  let columns := ((List.range 8).flatMap fun x =>
    waves (fun w => (w + 2) / 4) 15
      ((List.range 8).map fun y => alongRows.getD (8 * y + x) 0)).toArray
  Array.ofFn (n := 64) fun i => columns.getD (8 * (i.val % 8) + i.val / 8) 0

/-! ## (2) Waves to values -/

/-- What the even waves give the four values from the edge to the middle; factors are in units of
`2 ^ -12`. -/
def fromEven (w0 w2 w4 w6 : Int) : List Int :=
  let z := (w2 + w6) * 2217
  let (u, v) := (z + w2 * 3135, z - w6 * 7567)
  let (s, d) := ((w0 + w4) * 4096, (w0 - w4) * 4096)
  [s + u, d + v, d - v, s - u]

/-- What the odd waves give the four values from the edge to the middle. -/
def fromOdd (w1 w3 w5 w7 : Int) : List Int :=
  let z := (w7 + w3 + (w5 + w1)) * 4816
  let (p, q) := (z + (w7 + w1) * -3685, z + (w5 + w3) * -10497)
  let (s, t) := ((w7 + w3) * -8034, (w5 + w1) * -1597)
  [w1 * 6149 + (p + t), w3 * 12586 + (q + s), w5 * 8410 + (q + t), w7 * 1223 + (p + s)]

/-- **The values of eight waves**, in units of `2 ^ cut`, with `shift` added to each before they are
rounded down. -/
def values (shift : Int) (cut : Nat) (w : List Int) : List Int :=
  match w with
  | [w0, w1, w2, w3, w4, w5, w6, w7] =>
    let pairs := (fromEven w0 w2 w4 w6).zip (fromOdd w1 w3 w5 w7)
    pairs.map (fun (e, o) => (e + shift + o) / 2 ^ cut) ++
      (pairs.map fun (e, o) => (e + shift - o) / 2 ^ cut).reverse
  | _ => []

/-- **The values of the waves of a block**, row by row; they are taken around 128. -/
def inverse (waves : Array Int) : Array Int :=
  let columns := ((List.range 8).flatMap fun x =>
    values 512 10 ((List.range 8).map fun y => waves.getD (8 * y + x) 0)).toArray
  ((List.range 8).flatMap fun y =>
    values (512 + 65536 + 128 * 2 ^ 17) 17
      ((List.range 8).map fun x => columns.getD (8 * x + y) 0)).toArray

end Jpeg

end MediaTransform
