import MediaTransform.Error
import MediaTransform.Number.Instances

/-! # Addresses to listen on

* **`Http.Address`** — four bytes or eight groups, and a port.
* **`Http.Address.ofText?`** — the address of a text such as `127.0.0.1:80` or `[::1]:80`.
* **`Http.Address.ofHost`** — the address of a configured host and port. -/

namespace MediaTransform

namespace Http

/-- **The address of a host and a port.** -/
inductive Address where
  | four (bytes : List Nat) (port : Nat)
  | six (groups : List Nat) (scope port : Nat)
  deriving DecidableEq, Repr

namespace Address

/-! ## (1) Readers

A reader takes something from the front of a row of characters and gives it with the rest. -/

/-- The value of a digit in a base. -/
def digit? (base : Nat) (c : Char) : Option Nat :=
  let n :=
    if '0' ≤ c ∧ c ≤ '9' then c.toNat - 48
    else if 'a' ≤ c ∧ c ≤ 'f' then c.toNat - 87
    else if 'A' ≤ c ∧ c ≤ 'F' then c.toNat - 55
    else base
  if n < base then some n else none

/-- **A number** below a limit, all of whose digits are taken; more than `digits` of them are too
many, and so is a zero in front of others where that is not allowed. -/
def number? (base limit : Nat) (digits : Option Nat) (zeroFirst : Bool) (cs : List Char) :
    Option (Nat × List Char) :=
  let taken := cs.takeWhile fun c => (digit? base c).isSome
  let value := taken.foldl (fun n c => n * base + (digit? base c).getD 0) 0
  let tooLong := match digits with
    | some most => decide (most < taken.length)
    | none => false
  if taken.isEmpty || tooLong || limit ≤ value ||
      (!zeroFirst && taken.head? = some '0' && 1 < taken.length) then none
  else some (value, cs.drop taken.length)

/-- One certain character. -/
def char? (c : Char) : List Char → Option (List Char)
  | d :: rest => if d = c then some rest else none
  | [] => none

/-- **Four bytes with points between them.** -/
def bytes? (cs : List Char) : Option (List Nat × List Char) := do
  let byte := number? 10 256 (some 3) false
  let (a, cs) ← byte cs
  let (b, cs) ← byte (← char? '.' cs)
  let (c, cs) ← byte (← char? '.' cs)
  let (d, cs) ← byte (← char? '.' cs)
  return ([a, b, c, d], cs)

/-- The characters after a colon, which stands between groups but not in front of the first. -/
def afterColon? (first : Bool) (cs : List Char) : Option (List Char) :=
  if first then some cs else char? ':' cs

/-- Four bytes as two groups. -/
def pairUp : List Nat → List Nat
  | a :: b :: rest => (a * 256 + b) :: pairUp rest
  | _ => []

/-- **Groups with colons between them**, at most `room`: the groups, whether they end with four
bytes, and the rest. Four bytes count as two groups. -/
def groups : Nat → Bool → List Char → List Nat × Bool × List Char
  | 0, _, cs => ([], false, cs)
  | room + 1, first, cs =>
    match if room = 0 then none else (afterColon? first cs).bind bytes? with
    | some (bytes, rest) => (pairUp bytes, true, rest)
    | none =>
      match (afterColon? first cs).bind (number? 16 65536 (some 4) true) with
      | none => ([], false, cs)
      | some (g, rest) =>
        let (more, dotted, rest) := groups room false rest
        (g :: more, dotted, rest)

/-- **Eight groups**, of which a double colon may stand for one or more zeros. -/
def sixteen? (cs : List Char) : Option (List Nat × List Char) :=
  let (front, dotted, rest) := groups 8 true cs
  if front.length = 8 then some (front, rest)
  else if dotted then none
  else
    match (char? ':' rest).bind (char? ':') with
    | none => none
    | some rest =>
      let (back, _, rest) := groups (7 - front.length) true rest
      some (front ++ List.replicate (8 - front.length - back.length) 0 ++ back, rest)

/-! ## (2) Addresses -/

/-- A port after a colon, at the end. -/
def port? (cs : List Char) : Option Nat := do
  let (port, rest) ← number? 10 65536 none true (← char? ':' cs)
  if rest.isEmpty then some port else none

/-- Four bytes and a port. -/
def four? (cs : List Char) : Option Address := do
  let (bytes, rest) ← bytes? cs
  return .four bytes (← port? rest)

/-- The number of an interface after a percent sign, or zero. -/
def scope? (cs : List Char) : Option (Nat × List Char) :=
  match char? '%' cs with
  | none => some (0, cs)
  | some rest => number? 10 (2 ^ 32) none true rest

/-- Eight groups between brackets and a port. -/
def six? (cs : List Char) : Option Address := do
  let (values, rest) ← sixteen? (← char? '[' cs)
  let (scope, rest) ← scope? rest
  return .six values scope (← port? (← char? ']' rest))

/-- **The address of a text.** -/
def ofText? (s : String) : Option Address := (four? s.toList).or (six? s.toList)

/-- **The address of a host and a port.** -/
def ofHost (host : String) (port : Nat) : Except Error Address :=
  match ofText? (host ++ ":" ++ toString port) with
  | some address => .ok address
  | none => .error (.internal "Invalid server address: invalid socket address syntax")

end Address

end Http

end MediaTransform
