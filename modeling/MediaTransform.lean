import MediaTransform.Colour
import MediaTransform.CommandLine.Arguments
import MediaTransform.CommandLine.Report
import MediaTransform.Config.Basic
import MediaTransform.Config.Json
import MediaTransform.Dictionary
import MediaTransform.Error
import MediaTransform.Geometry
import MediaTransform.Http.Address
import MediaTransform.Http.Exchange
import MediaTransform.Http.Target
import MediaTransform.Image.Bits
import MediaTransform.Image.Buffer
import MediaTransform.Image.Checksum
import MediaTransform.Image.Compose
import MediaTransform.Image.Contour
import MediaTransform.Image.Deflate
import MediaTransform.Image.Edges
import MediaTransform.Image.Executor
import MediaTransform.Image.Gif
import MediaTransform.Image.Grid
import MediaTransform.Image.Mask
import MediaTransform.Image.Operation
import MediaTransform.Image.Picture
import MediaTransform.Image.Png
import MediaTransform.Image.Resample
import MediaTransform.Json.Basic
import MediaTransform.Json.Fields
import MediaTransform.Json.Number
import MediaTransform.Json.Reader
import MediaTransform.Json.Writer
import MediaTransform.Main
import MediaTransform.Media.Asset
import MediaTransform.Media.Json
import MediaTransform.Media.Params
import MediaTransform.Media.Spec
import MediaTransform.Number.Arithmetic
import MediaTransform.Number.Basic
import MediaTransform.Number.DecimalText
import MediaTransform.Number.Shortest
import MediaTransform.Number.Single
import MediaTransform.Proofs.Geometry
import MediaTransform.Proofs.Image.Sequence
import MediaTransform.Proofs.Media.Params
import MediaTransform.Proofs.Number.Arithmetic
import MediaTransform.Proofs.Number.DecimalText
import MediaTransform.Proofs.Number.PlainText
import MediaTransform.Proofs.Number.Rounding
import MediaTransform.Proofs.Number.Value
import MediaTransform.Proofs.Registry
import MediaTransform.Proofs.Service.Confinement
import MediaTransform.Proofs.Storage.Confinement
import MediaTransform.Proofs.Stream.Delivery
import MediaTransform.Proofs.Stream.Schedule
import MediaTransform.Proofs.Text.Cut
import MediaTransform.Proofs.Url.RoundTrip
import MediaTransform.Proofs.Url.Shape
import MediaTransform.Proofs.Video.Change
import MediaTransform.Proofs.Video.Filter
import MediaTransform.Proofs.Video.Timing
import MediaTransform.Registry
import MediaTransform.Service.Render
import MediaTransform.Storage.File
import MediaTransform.Storage.FileTree
import MediaTransform.Storage.Path
import MediaTransform.Storage.Store
import MediaTransform.Stream.Child
import MediaTransform.Stream.ScriptedProgram
import MediaTransform.Stream.Sink
import MediaTransform.Stream.Transcode
import MediaTransform.Text.Blank
import MediaTransform.Text.Duration
import MediaTransform.Text.Printable
import MediaTransform.Text.Quoted
import MediaTransform.Text.Split
import MediaTransform.Text.Utf8
import MediaTransform.Tool
import MediaTransform.Url.Coerce
import MediaTransform.Url.Path
import MediaTransform.Video.Command
import MediaTransform.Video.Operation
import MediaTransform.Proofs.Video.Plan
import MediaTransform.Proofs.Service.Stages
import MediaTransform.Proofs.Video.Independence
import MediaTransform.Proofs.Video.Ranges
import MediaTransform.Proofs.Image.Budget
import MediaTransform.Proofs.Image.Cover
import MediaTransform.Proofs.Json.Lexemes
import MediaTransform.Proofs.Json.Numbers
import MediaTransform.Proofs.Json.RoundTrip
import MediaTransform.Proofs.Media.Json
import MediaTransform.Proofs.Service.Preparation
import MediaTransform.Proofs.CommandLine.Address
import MediaTransform.Proofs.Storage.FileTree
import MediaTransform.Proofs.Stream.Reading
import MediaTransform.Proofs.CommandLine.Rendering
import MediaTransform.Proofs.Directive
import MediaTransform.Proofs.Json.Records
import MediaTransform.Proofs.Config.Overlay
import MediaTransform.Proofs.Image.Files
import MediaTransform.Proofs.Image.Format
import MediaTransform.Proofs.Image.Shape
import MediaTransform.Proofs.Image.Geometry
import MediaTransform.Proofs.Image.JpegHead
import MediaTransform.Proofs.Number.Nearest
import MediaTransform.Proofs.Url.Coercion
import MediaTransform.Proofs.Dictionary
import MediaTransform.Proofs.Url.Tokens
import MediaTransform.Proofs.Video.Splice
import MediaTransform.Proofs.Video.TokenOrder
import MediaTransform.Proofs.Video.LastTimes
import MediaTransform.Proofs.Image.Crop
import MediaTransform.Proofs.Image.Fit
import MediaTransform.Proofs.Image.Pad
import MediaTransform.Proofs.Video.Wiring
import MediaTransform.Proofs.Url.LastTokens
import MediaTransform.Proofs.Image.Cutout
import MediaTransform.Proofs.Image.Flatten
import MediaTransform.Text.Slice
import MediaTransform.Proofs.Image.Naming
import MediaTransform.Proofs.Media.Extension
import MediaTransform.Proofs.Colour
import MediaTransform.Proofs.Registering
import MediaTransform.Proofs.Video.Building
import MediaTransform.Proofs.Media.Pixels
