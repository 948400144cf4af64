import MediaTransform.Config.Basic
import MediaTransform.Image.Buffer
import MediaTransform.Image.Compose
import MediaTransform.Image.Executor
import MediaTransform.Image.Mask
import MediaTransform.Video.Operation

/-! # The image operations

Each operation decodes its input, changes the picture and writes it back in the input's format;
quality writes JPEG and background removal PNG.

* **`Image.fill`**, **`crop`**, **`pad`**, **`scale`**, **`fit`**, **`reshape`** — geometry, with a
  limit on the number of pixels made.
* **`Image.flatten`**, **`quality`**, **`removeBackground`**.
* **`Image.registry`** — all of them under their tags; **`Image.attempt`** — one against the clock. -/

namespace MediaTransform

namespace Image

/-- **What an operation does** once its parameters are read. -/
inductive Task where
  /-- The contents stay as they are. -/
  | keep
  /-- The contents are worked on. -/
  | work (f : Buffer → Except Error Buffer)

/-- The contents after a task. -/
def Task.apply (t : Task) (input : Buffer) : Except Error Buffer :=
  match t with
  | keep => .ok input
  | work f => f input

/-- **An operation**: its parameters are read before its input is looked at. -/
abbrev Operation := Params → Except Error Task

/-- The contents after an operation. -/
def Operation.apply (o : Operation) (input : Buffer) (ps : Params) : Except Error Buffer := do
  (← o ps).apply input

/-! ## (1) Limits and the way through a format -/

/-- **The limit on the size of an output**, checked by the exact product of the sides. -/
def checkOutputSize (op : String) (w h maxPixels : Nat) : Except Error Unit :=
  if maxPixels < w * h then
    .error (.operation op
      ("output " ++ toString w ++ "x" ++ toString h ++ " (" ++ toString (w * h) ++
        " pixels) exceeds the limit of " ++ toString maxPixels ++ " pixels"))
  else .ok ()

/-- **Decode, change, and write back in the same format.** -/
def transform (op : String) (change : Picture → Except Error Picture) : Task := .work fun input => do
  let decoded ← input.decode op
  let output ← change decoded.picture
  Buffer.encode op output decoded.format

/-! ## (2) Geometry -/

/-- Resize to cover `w` by `h`, and cut the overflow. -/
def fill (op : String) (maxPixels : Nat) : Operation := fun ps => do
  let w ← ps.requireDimension op "w"
  let h ← ps.requireDimension op "h"
  checkOutputSize op w h maxPixels
  return transform op fun p => .ok (p.cover w h)

/-- The window of `w` by `h` pixels at (`x`, `y`), which must lie inside. -/
def cropChange (x y w h : Nat) (p : Picture) : Except Error Picture :=
  if x + w ≤ p.width ∧ y + h ≤ p.height then .ok (p.crop x y w h)
  else .error (.operation "c_crop"
    ("crop window " ++ toString w ++ "x" ++ toString h ++ "+" ++ toString x ++ "+" ++ toString y ++
      " exceeds image bounds " ++ toString p.width ++ "x" ++ toString p.height))

/-- Cut the window of `w` by `h` at (`x`, `y`). -/
def crop : Operation := fun ps => do
  let w ← ps.requireDimension "c_crop" "w"
  let h ← ps.requireDimension "c_crop" "h"
  let x ← ps.requireOffset "c_crop" "x"
  let y ← ps.requireOffset "c_crop" "y"
  return transform "c_crop" (cropChange x y w h)

/-- Fit inside `w` by `h` and centre on a canvas of the colour `b`. -/
def pad (maxPixels : Nat) : Operation := fun ps => do
  let w ← ps.requireDimension "c_pad" "w"
  let h ← ps.requireDimension "c_pad" "h"
  checkOutputSize "c_pad" w h maxPixels
  return transform "c_pad" fun p => .ok (p.pad w h (Colour.ofValue .black (ps.get? "b")))

/-- Resize to fit a box, where the result is within the limit. -/
def fitWithin (op : String) (maxPixels w h : Nat) (p : Picture) : Except Error Picture := do
  let size := fitDimensions p.width p.height w h
  checkOutputSize op size.1 size.2 maxPixels
  return p.fitInside w h

/-- Resize to the sides that are given, with the aspect ratio kept. -/
def scale (maxPixels : Nat) : Operation := fun ps => do
  let w ← ps.dimension "c_scale" "w"
  let h ← ps.dimension "c_scale" "h"
  if w.isNone && h.isNone then throw (.operation "c_scale" "requires 'w' or 'h'")
  return transform "c_scale"
    (fitWithin "c_scale" maxPixels (w.getD maxSide) (h.getD maxSide))

/-- Resize to fit inside `w` by `h`. -/
def fit (maxPixels : Nat) : Operation := fun ps => do
  let w ← ps.requireDimension "c_fit" "w"
  let h ← ps.requireDimension "c_fit" "h"
  return transform "c_fit" (fitWithin "c_fit" maxPixels w h)

/-- Resize to cover the given side and the one that the aspect ratio asks for; with neither side
given the input stays as it is. -/
def reshape (maxPixels : Nat) : Operation := fun ps => do
  let ratio ← Video.requireRatio ps
  let w ← ps.dimension "ar" "w"
  let h ← ps.dimension "ar" "h"
  match aspectDimensions w h ratio with
  | none => return .keep
  | some (w, h) =>
    checkOutputSize "ar" w h maxPixels
    return transform "ar" fun p => .ok (p.cover w h)

/-! ## (3) Background and quality -/

/-- Over a solid background of the colour `b`. -/
def flatten : Operation := fun ps =>
  .ok <| transform "b_auto" fun p => .ok (p.flatten (Colour.ofValue .white (ps.get? "b")))

/-- A picture written as JPEG of a quality. -/
def jpegWork (level : Nat) (input : Buffer) : Except Error Buffer := do
  let decoded ← input.decode "q_auto"
  Buffer.encodeJpeg "q_auto" decoded.picture level

/-- Write as JPEG of the quality asked for. -/
def quality (defaultQuality : Nat) : Operation := fun ps => do
  return .work (jpegWork (Video.qualityLevel 100 defaultQuality ps))

/-- The threshold under a key in single precision, or its default. -/
def threshold (ps : Params) (key : String) (default : Nat) : Number :=
  match ps.number? key with
  | some x => x.toSingle
  | none => .ofNat default

/-- The tag of background removal. -/
def removalTag : String := "e_background_removal"

/-- A picture in which everything outside the outermost contours is transparent. -/
def maskWork (low high : Number) (input : Buffer) : Except Error Buffer := do
  let decoded ← input.decode removalTag
  match Mask.foreground decoded.picture.luminance low high with
  | some mask => return Buffer.encodePng ⟨.rgba8, mask.apply decoded.picture.toRgba8.grid⟩
  | none => throw (.operation removalTag "image worker failed: thresholds that cannot be used")

/-- **Make everything outside the outermost contours transparent.** -/
def removeBackground : Operation := fun ps => do
  let low := threshold ps "lowerThreshold" 50
  let high := threshold ps "upperThreshold" 150
  if low < .ofNat 0 ∨ high < low then
    throw (.operation removalTag
      ("thresholds must satisfy 0 <= lowerThreshold <= upperThreshold, got " ++ low.singleText ++
        "/" ++ high.singleText))
  return .work (maskWork low high)

/-! ## (4) All together -/

/-- **The image operations under their tags.** -/
def operations (config : Config.Pipeline) : List (String × Operation) :=
  let limit := config.maxOutputPixels
  [("c_fill", fill "c_fill" limit), ("c_thumb", fill "c_thumb" limit),
    ("g_auto", fill "g_auto" limit), ("c_crop", crop), ("c_pad", pad limit),
    ("c_scale", scale limit), ("c_fit", fit limit), ("b_auto", flatten), ("ar", reshape limit),
    ("q_auto", quality config.defaultImageQuality), ("q", quality config.defaultImageQuality),
    (removalTag, removeBackground)]

/-- **The largest picture, in pixels, that is worked on before the clock first ticks.** How far work
gets in no time at all depends on the machine; this number is a choice that stands for it. Pictures far
from it on either side are cut off and finished as it says, and it counts for no other time limit. -/
def instantArea : Nat := 10000

/-- The number of pixels that contents hold. -/
def areaOf (b : Buffer) : Nat := (b.encoded?.map (·.picture.area)).getD 0

/-- **An operation against the clock.** With no time at all, work on a picture is cut off unless
picture and result are small (`instantArea`); parameters are read in no time. With any other limit work
is taken to be done in time. -/
def attempt (instantly : Bool) (o : Operation) : ImageChain.Operation Buffer := fun input ps =>
  match o ps with
  | .error e => .failed e
  | .ok .keep => .done input
  | .ok (.work f) =>
    let result := f input
    let isLarge (b : Buffer) : Bool := instantArea < areaOf b
    if instantly && (isLarge input || result.toOption.any isLarge) then .hangs
    else .ofExcept result

/-- The registry of the image operations. -/
def registry (config : Config.Pipeline) : Registry (ImageChain.Operation Buffer) :=
  .ofList .image ((operations config).map fun o =>
    (o.1, attempt (config.imageTimeoutSecs == 0) o.2))

/-- **A chain of image operations over a source.** -/
def run (config : Config.Pipeline) (source : Buffer) (chain : Chain) : Except Error Buffer :=
  ImageChain.run (registry config) (1000 * config.imageTimeoutSecs) source chain

end Image

end MediaTransform
