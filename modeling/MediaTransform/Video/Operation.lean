import MediaTransform.Colour
import MediaTransform.Config.Basic
import MediaTransform.Geometry
import MediaTransform.Registry
import MediaTransform.Video.Command

/-! # The video operations

Each operation extends a command; none reads an asset or starts a program.

* **Geometry** — `cover`, `crop`, `pad`, `scale`, `fit`, `reshape` add one filter each.
* **`blur`**, **`quality`** — with a configured default.
* **`timing`** — start, end and duration, which one spec may give together.
* **`splice`** — joins an asset after the inputs so far.
* **`Video.registry`** — all of them under their tags; **`Video.plan`** folds a chain. -/

namespace MediaTransform

namespace Video

/-- An operation on commands. -/
abbrev Operation := Command → Params → Except Error Command

/-! ## (1) Geometry -/

/-- The text `w:h`. -/
def sizeText (w h : Nat) : String := toString w ++ ":" ++ toString h

/-- Scale to cover `w` by `h`, then cut the overflow. -/
def cover (op : String) : Operation := fun c ps => do
  let w ← ps.requireDimension op "w"
  let h ← ps.requireDimension op "h"
  return c.withFilter
    ("scale=" ++ sizeText w h ++ ":force_original_aspect_ratio=increase,crop=" ++ sizeText w h)

/-- Cut the window of `w` by `h` at (`x`, `y`). -/
def crop : Operation := fun c ps => do
  let w ← ps.requireDimension "c_crop" "w"
  let h ← ps.requireDimension "c_crop" "h"
  let x ← ps.requireOffset "c_crop" "x"
  let y ← ps.requireOffset "c_crop" "y"
  return c.withFilter ("crop=" ++ sizeText w h ++ ":" ++ sizeText x y)

/-- Fit inside `w` by `h` and pad with the colour `b`. -/
def pad : Operation := fun c ps => do
  let w ← ps.requireDimension "c_pad" "w"
  let h ← ps.requireDimension "c_pad" "h"
  let colour := Colour.ofValue .black (ps.get? "b")
  return c.withFilter
    ("scale=" ++ sizeText w h ++ ":force_original_aspect_ratio=decrease,pad=" ++ sizeText w h ++
      ":(ow-iw)/2:(oh-ih)/2:color=" ++ colour.ffmpegText)

/-- The filter that fits inside `w` by `h`. -/
def fitFilter (w h : Nat) : String :=
  "scale=" ++ sizeText w h ++ ":force_original_aspect_ratio=decrease"

/-- Scale to the sides that are given, with the aspect ratio kept. -/
def scale : Operation := fun c ps => do
  let w ← ps.dimension "c_scale" "w"
  let h ← ps.dimension "c_scale" "h"
  match w, h with
  | some w, some h => return c.withFilter (fitFilter w h)
  | some w, none => return c.withFilter ("scale=" ++ toString w ++ ":-2")
  | none, some h => return c.withFilter ("scale=-2:" ++ toString h)
  | none, none => throw (.operation "c_scale" "requires 'w' or 'h'")

/-- Scale to fit inside `w` by `h`. -/
def fit : Operation := fun c ps => do
  let w ← ps.requireDimension "c_fit" "w"
  let h ← ps.requireDimension "c_fit" "h"
  return c.withFilter (fitFilter w h)

/-- The aspect ratio that `ar` asks for, which must be positive. -/
def requireRatio (ps : Params) : Except Error Number := do
  let ratio ← ps.requireNumber "ar" "ar"
  if ratio ≤ .ofNat 0 then
    throw (.operation "ar" ("aspect ratio must be positive, got " ++ ratio.text))
  return ratio

/-- Scale to the given side and the one that the aspect ratio asks for, or the width to the height
of the input. -/
def reshape : Operation := fun c ps => do
  let ratio ← requireRatio ps
  let w ← ps.dimension "ar" "w"
  let h ← ps.dimension "ar" "h"
  match aspectDimensions w h ratio with
  | some (w, h) => return c.withFilter ("scale=" ++ sizeText w h ++ ",setsar=1")
  | none => return c.withFilter ("scale=trunc(ih*" ++ ratio.text ++ "/2)*2:ih,setsar=1")

/-- Gravity needs subject detection, which videos do not have; the command stays as it is. -/
def gravity : Operation := fun c _ => .ok c

/-! ## (2) Operations with a configured default -/

/-- Box blur with the radius `radius`. -/
def blur (defaultRadius : Nat) : Operation := fun c ps => do
  let radius ←
    if ps.contains "radius" then ps.requireOffset "b_blurred" "radius" else pure defaultRadius
  return c.withFilter
    ("boxblur=luma_radius=" ++ toString radius ++ ":chroma_radius=" ++ toString radius)

/-- The number that a quality spec asks for: `quality`, else `q`. -/
def qualityNumber? (ps : Params) : Option Number := (ps.number? "quality").or (ps.number? "q")

/-- **A number rounded and held between one and `limit`**; not-a-number counts as one. -/
def clampedLevel (limit : Nat) (x : Number) : Nat := max (x.round.toNatUpTo limit) 1

/-- The level that a quality spec asks for, or the default, between one and `limit`. -/
def qualityLevel (limit default : Nat) (ps : Params) : Nat :=
  match qualityNumber? ps with
  | some x => clampedLevel limit x
  | none => max (min default limit) 1

/-- The flag of the quality scale. -/
def qscaleFlag : String := "-qscale:v"

/-- The quality scale of the encoder, from 1 to 31. -/
def quality (defaultQscale : Nat) : Operation := fun c ps =>
  .ok (c.withOption qscaleFlag (toString (qualityLevel 31 defaultQscale ps)))

/-! ## (3) Timing -/

/-- The start that a spec sets, if the spec is about the start. -/
def applyStart (key : String) : Operation := fun c ps =>
  if key = "so" ∨ ps.contains "so" then do
    -- a spec that its kind alone leads here starts at zero
    let start ← if ps.contains "so" then ps.requireNumber "so" "so" else pure (.ofNat 0)
    if start < .ofNat 0 then
      throw (.operation "so" ("start offset must be >= 0, got " ++ start.text))
    return c.withSeek start
  else .ok c

/-- The end that a spec sets, if the spec is about the end: the duration from the start in force. -/
def applyEnd (key : String) : Operation := fun c ps =>
  if key = "eo" ∨ ps.contains "eo" then do
    let stop ← ps.requireNumber "eo" "eo"
    -- the start may be of this spec or of an earlier one
    let start := c.seek.getD (.ofNat 0)
    if stop ≤ start then
      throw (.operation "eo"
        ("end offset " ++ stop.text ++ " must be after start offset " ++ start.text))
    return c.withDuration (stop - start)
  else .ok c

/-- The duration that a spec sets, if the spec is about the duration. -/
def applyDuration (key : String) : Operation := fun c ps =>
  if key = "du" ∨ ps.contains "du" then do
    let duration ← ps.requireNumber "du" "du"
    if duration ≤ .ofNat 0 then
      throw (.operation "du" ("duration must be > 0, got " ++ duration.text))
    return c.withDuration duration
  else .ok c

/-- **Start, end and duration, in this order**, whichever of them led to the spec. -/
def timing (key : String) : Operation := fun c ps => do
  let c ← applyStart key c ps
  let c ← applyEnd key c ps
  applyDuration key c ps

/-! ## (4) Splicing -/

/-- The mark that may stand before the name of a spliced video. -/
def videoMark : String := "video:"

/-- The name without one leading mark. -/
def withoutMark (name : String) : String :=
  if videoMark.toList.isPrefixOf name.toList then
    String.ofList (name.toList.drop videoMark.toList.length)
  else name

/-- Join the asset that `l` names. -/
def splice : Operation := fun c ps =>
  match ps.get? "l" with
  | none => .error (Params.missing "fl_splice" "l")
  | some value =>
    let name := withoutMark value.display
    if name = "" then .error (.operation "fl_splice" "parameter 'l' must name a video asset")
    else .ok (c.withSplice name)

/-! ## (5) All together -/

/-- **The video operations under their tags.** -/
def operations (config : Config.Pipeline) : List (String × Operation) :=
  [("c_fill", cover "c_fill"), ("c_thumb", cover "c_thumb"), ("c_crop", crop), ("c_pad", pad),
    ("c_scale", scale), ("c_fit", fit), ("ar", reshape), ("g_auto", gravity),
    ("fl_splice", splice), ("b_blurred", blur config.defaultBlurRadius),
    ("q_auto", quality config.defaultVideoQscale), ("q", quality config.defaultVideoQscale),
    ("so", timing "so"), ("eo", timing "eo"), ("du", timing "du")]

/-- The registry of the video operations. -/
def registry (config : Config.Pipeline) : Registry Operation :=
  .ofList .video (operations config)

/-- One step of planning. -/
def step (found : Resolved Operation) (c : Command) : Except Error Command :=
  match found.handler c found.params with
  | .ok next => .ok next
  | .error e => .error (Error.ascribe found.tag e)

/-- **The command of a chain**, extended from a given one. -/
def planFrom (r : Registry Operation) (c : Command) (chain : Chain) : Except Error Command :=
  r.fold step c chain

/-- **The command of a chain.** -/
def plan (r : Registry Operation) (chain : Chain) : Except Error Command := planFrom r {} chain

end Video

end MediaTransform
