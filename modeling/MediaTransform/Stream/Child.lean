import MediaTransform.Text.Blank
import MediaTransform.Text.Utf8

/-! # External programs

* **`Child`** — what a started program does: what it writes and how it ends.
* **`Program`** — what comes of starting a program with arguments and input files. -/

namespace MediaTransform

/-- **How a program ends.** -/
inductive Ending where
  | exited (code : Nat)
  | killed
  /-- Not before it is stopped. -/
  | never
  deriving DecidableEq, Repr

/-- **What a started program does**: all it writes, and how it ends. Its output stays open until it
ends. A program that closes its output and lives on is none of these: nothing would limit the wait for
its end, as the time limit is one on passing on output. -/
structure Child where
  output : Bytes
  complaint : Bytes
  ending : Ending
  deriving DecidableEq

/-- What comes of starting a program. -/
inductive Launch where
  | child (c : Child)
  | refused (reason : String)
  deriving DecidableEq

/-- **A program**: from its arguments and the files that it can read by name to what it does. -/
abbrev Program := List String → List (String × Bytes) → Launch

/-- **What comes of starting a program**: an argument ends at its first NUL, so none may hold one. -/
def Program.launch (p : Program) (arguments : List String) (files : List (String × Bytes)) :
    Launch :=
  if arguments.any (·.toList.contains '\x00') then .refused "nul byte found in provided data"
  else p arguments files

namespace Ending

/-- The wording of an exit status. -/
def status : Ending → String
  | exited code => "exit status: " ++ toString code
  | killed => "signal: 9 (SIGKILL)"
  | never => "signal: 9 (SIGKILL)"

/-- Whether a program ended well. -/
def isSuccess : Ending → Bool
  | exited 0 => true
  | _ => false

end Ending

namespace Child

/-- How many bytes of a complaint are kept. -/
def complaintTail : Nat := 2048

/-- **The end of a complaint as text**, without white space around it. -/
def complaintText (c : Child) : String :=
  Text.trim (Bytes.lossyText (c.complaint.drop (c.complaint.length - complaintTail)))

/-- The wording of a failed run. -/
def failureText (c : Child) : String :=
  "exited with status " ++ c.ending.status ++ ": " ++ c.complaintText

end Child

end MediaTransform
