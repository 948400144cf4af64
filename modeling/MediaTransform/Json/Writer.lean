import MediaTransform.Json.Basic

/-! # Writing JSON

* **`Json.compact`** — no blanks anywhere.
* **`Json.pretty`** — one item or field a line, two blanks a level.
* **`Json.escape`** — only the quote, the backslash and the control characters are escaped. -/

namespace MediaTransform

namespace Json

/-! ## (1) Strings and numbers -/

/-- A lower-case hexadecimal digit. -/
def hexDigit (n : Nat) : Char := if n < 10 then Char.ofNat (48 + n) else Char.ofNat (87 + n)

/-- The escape of a character, if it needs one. -/
def escapeChar (c : Char) : List Char :=
  if c = '"' then ['\\', '"']
  else if c = '\\' then ['\\', '\\']
  else if c = '\x08' then ['\\', 'b']
  else if c = '\t' then ['\\', 't']
  else if c = '\n' then ['\\', 'n']
  else if c = '\x0c' then ['\\', 'f']
  else if c = '\r' then ['\\', 'r']
  else if c.toNat < 32 then
    ['\\', 'u', '0', '0', hexDigit (c.toNat / 16), hexDigit (c.toNat % 16)]
  else [c]

/-- **The inside of a quoted string.** -/
def escape (cs : List Char) : List Char := cs.flatMap escapeChar

/-- A quoted string. One without a text is written as half of a surrogate pair. -/
def writeString : StringText → List Char
  | some s => '"' :: (escape s.toList ++ ['"'])
  | none => "\"\\ud800\"".toList

/-- The sign of an exponent. -/
def writeExponentSign : ExponentSign → List Char
  | .none => []
  | .plus => ['+']
  | .minus => ['-']

/-- **A number as spelled.** -/
def writeNumber (n : NumberText) : List Char :=
  (if n.negative then ['-'] else []) ++ n.whole ++
    (match n.fraction with
      | some places => '.' :: places
      | none => []) ++
    (match n.exponent with
      | some (sign, digits) => 'e' :: (writeExponentSign sign ++ digits)
      | none => [])

/-! ## (2) Documents without blanks -/

mutual

/-- **A document without blanks.** -/
def write : Json → List Char
  | .null => ['n', 'u', 'l', 'l']
  | .bool b => if b then ['t', 'r', 'u', 'e'] else ['f', 'a', 'l', 's', 'e']
  | .number n => writeNumber n
  | .string s => writeString s
  | .array items => '[' :: (writeItems items ++ [']'])
  | .object fields => '{' :: (writeFields fields ++ ['}'])

/-- Items with commas between them. -/
def writeItems : List Json → List Char
  | [] => []
  | [item] => write item
  | item :: items => write item ++ ',' :: writeItems items

/-- Fields with commas between them. -/
def writeFields : List (StringText × Json) → List Char
  | [] => []
  | [(key, value)] => writeString key ++ ':' :: write value
  | (key, value) :: fields => writeString key ++ ':' :: (write value ++ ',' :: writeFields fields)

end

/-- A document without blanks, as a string. -/
def compact (j : Json) : String := String.ofList j.write

/-! ## (3) Documents with lines -/

/-- A line break and the indentation of a level. -/
def newline (level : Nat) : List Char := '\n' :: List.replicate (2 * level) ' '

mutual

/-- **A document with one item or field a line**; empty arrays and objects stay on theirs. -/
def writeLines (level : Nat) : Json → List Char
  | .array (item :: items) =>
    '[' :: (writeItemLines (level + 1) (item :: items) ++ newline level ++ [']'])
  | .object (field :: fields) =>
    '{' :: (writeFieldLines (level + 1) (field :: fields) ++ newline level ++ ['}'])
  | j => write j

/-- Items, each on a line of its own. -/
def writeItemLines (level : Nat) : List Json → List Char
  | [] => []
  | [item] => newline level ++ writeLines level item
  | item :: items => newline level ++ writeLines level item ++ ',' :: writeItemLines level items

/-- Fields, each on a line of its own. -/
def writeFieldLines (level : Nat) : List (StringText × Json) → List Char
  | [] => []
  | [(key, value)] => newline level ++ writeString key ++ ':' :: ' ' :: writeLines level value
  | (key, value) :: fields =>
    newline level ++ writeString key ++ ':' :: ' ' ::
      (writeLines level value ++ ',' :: writeFieldLines level fields)

end

/-- A document with lines, as a string. -/
def pretty (j : Json) : String := String.ofList (j.writeLines 0)

end Json

end MediaTransform
