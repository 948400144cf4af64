import MediaTransform.Stream.Child

/-! # A program that acts out a script

For trying pipelines without a transcoder: a program whose first input file says on its first line
how to behave.

* **`ScriptedProgram.run`** — acts out the word on the line; any other word makes it list its
  arguments and inputs. -/

namespace MediaTransform

namespace ScriptedProgram

/-! ## (1) The script -/

/-- The blanks between words. -/
def isGap (c : Char) : Bool := c == ' ' || c == '\t'

/-- A line without blanks around it. -/
def trimGaps (cs : List Char) : List Char :=
  ((cs.dropWhile isGap).reverse.dropWhile isGap).reverse

/-- The first word and what follows it. -/
def takeWord (cs : List Char) : List Char × List Char :=
  (cs.takeWhile (!isGap ·), (cs.dropWhile (!isGap ·)).dropWhile isGap)

/-- The first line of a file. -/
def firstLine (b : Bytes) : List Char := (Bytes.lossyText b).toList.takeWhile (· ≠ '\n')

/-- The natural at the start of a word. -/
def countOf (cs : List Char) : Nat :=
  (cs.takeWhile Char.isDigit).foldl (fun n c => 10 * n + (c.toNat - 48)) 0

/-! ## (2) Acting it out -/

/-- The last component of a path. -/
def baseName (path : String) : String :=
  String.ofList (path.toList.reverse.takeWhile (· ≠ '/')).reverse

/-- The arguments as they are listed, one a line, and the inputs among them. -/
def listArguments : List String → List String × List String
  | [] => ([], [])
  | "-i" :: path :: rest =>
    let (lines, inputs) := listArguments rest
    ("-i" :: baseName path :: lines, path :: inputs)
  | a :: rest =>
    let (lines, inputs) := listArguments rest
    (a :: lines, inputs)

/-- The listing of arguments and inputs. -/
def listing (arguments : List String) (files : List (String × Bytes)) : Bytes :=
  let (lines, inputs) := listArguments arguments
  Bytes.ofText (String.join (lines.map (· ++ "\n"))) ++
    inputs.flatMap fun path =>
      Bytes.ofText ("== " ++ baseName path ++ "\n") ++ ((files.lookup path).getD []) ++
        Bytes.ofText "\n"

/-- The exit status that a count stands for: its last eight bits. -/
def exitWith (n : Nat) : Ending := .exited (n % 256)

/-- **A program that acts out its script.** -/
def run : Program := fun arguments files =>
  match arguments with
  | "-version" :: _ =>
    .child ⟨Bytes.ofText "ffmpeg version fake-1.0\nsecond line\n", [], .exited 0⟩
  | _ =>
    let input := ((listArguments arguments).2.head?).getD ""
    let (word, rest) := takeWord (trimGaps (firstLine ((files.lookup input).getD [])))
    let (countWord, rest) := takeWord rest
    let n := countOf countWord
    let words := Bytes.ofText (String.ofList rest)
    .child <|
      match String.ofList word with
      | "exit" => ⟨[], words, exitWith n⟩
      | "partial" => ⟨Bytes.ofText "partial", words, exitWith n⟩
      | "warn" => ⟨Bytes.ofText "fine", words, .exited 0⟩
      | "stderr" => ⟨[], List.replicate n 101 ++ Bytes.ofText "END", .exited 1⟩
      | "big" => ⟨List.replicate n 120, [], .exited 0⟩
      | "silent" => ⟨[], [], .exited 0⟩
      | "kill" => ⟨[], [], .killed⟩
      | "hang" => ⟨[], [], .never⟩
      | _ => ⟨listing arguments files, [], .exited 0⟩

end ScriptedProgram

end MediaTransform
