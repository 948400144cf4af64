import MediaTransform.Text.Split
import MediaTransform.Text.Utf8

/-! # Request targets

What stands after the method on the first line of a request: a path with perhaps a query, an
absolute address, an authority alone, or an asterisk.

* **`Http.Target`** — the path that routes are matched with, and the path with its query.
* **`Http.Target.ofText?`** — the target of a text; nothing when a character may not stand where it
  does. A fragment is dropped, and nothing is decoded. -/

namespace MediaTransform

namespace Http

/-- **A request target.** -/
structure Target where
  /-- What routes are matched with. -/
  path : String
  /-- The path and, after a question mark, the query. -/
  pathAndQuery : String
  deriving DecidableEq, Repr

namespace Target

/-! ## (1) Characters -/

/-- Whether a character is none of ASCII. -/
def isBeyond (c : Char) : Bool := 0x80 ≤ c.toNat

/-- Whether a character is one of ASCII that can be seen. -/
def isVisible (c : Char) : Bool := ' ' < c && c < '\x7f'

/-- The visible characters that may not stand in a path as they are. -/
def keptFromPath : List Char := ['#', '<', '>', '?', '\x60']

/-- The visible characters that may not stand in a query as they are. -/
def keptFromQuery : List Char := ['"', '#', '<', '>']

/-- Whether a character may stand in a path as it is. -/
def isPathChar (c : Char) : Bool := isBeyond c || (isVisible c && !keptFromPath.contains c)

/-- Whether a character may stand in a query as it is. -/
def isQueryChar (c : Char) : Bool := isBeyond c || (isVisible c && !keptFromQuery.contains c)

/-- Whether a character is an ASCII letter or digit. -/
def isPlain (c : Char) : Bool := c.isAlphanum

/-- Whether a character may stand in the name of a scheme. -/
def isSchemeChar (c : Char) : Bool := isPlain c || ['+', '-', '.', '~'].contains c

/-- Whether a character may stand in an authority. -/
def isAuthorityChar (c : Char) : Bool :=
  isPlain c || "!$&'()*+,-.:;=@[]_~%".toList.contains c

/-- Whether a character ends an authority. -/
def endsAuthority (c : Char) : Bool := ['/', '?', '#'].contains c

/-! ## (2) Parts -/

/-- **The target of a path with its query**, without the fragment. -/
def ofPath? (cs : List Char) : Option Target :=
  let plain := cs.takeWhile (· ≠ '#')
  let path := plain.takeWhile (· ≠ '?')
  let query := plain.drop path.length
  if path.all isPathChar && (query.drop 1).all isQueryChar then
    some ⟨if path.isEmpty then "/" else String.ofList path,
      if plain.isEmpty then "/" else String.ofList plain⟩
  else none

/-- What is known of an authority from its beginning: colons since the last user mark or bracket,
brackets, a percent sign that is not part of the user, and whether the last character marks a
user. -/
structure Scan where
  colons : Nat := 0
  opened : Bool := false
  closed : Bool := false
  percent : Bool := false
  user : Bool := false

/-- The most colons in a row of address groups. -/
def colonLimit : Nat := 8

/-- One more character of an authority. -/
def Scan.step (s : Scan) (c : Char) : Option Scan :=
  let s := { s with user := false }
  match c with
  | ':' => if s.colons < colonLimit then some { s with colons := s.colons + 1 } else none
  | '[' => if s.percent || s.opened then none else some { s with opened := true }
  | ']' =>
    if !s.opened || s.closed then none
    else some { s with closed := true, colons := 0, percent := false }
  | '@' => some { s with colons := 0, percent := false, user := true }
  | '%' => some { s with percent := true }
  | c => if isAuthorityChar c then some s else none

/-- Whether an authority is well-formed as a whole. -/
def Scan.isWhole (s : Scan) : Bool :=
  s.opened == s.closed && s.colons ≤ 1 && !s.user && !s.percent

/-- Whether characters are an authority. -/
def isAuthority (cs : List Char) : Bool :=
  match cs.foldlM Scan.step {} with
  | some s => s.isWhole
  | none => false

/-- The longest name of a scheme. -/
def schemeLimit : Nat := 64

/-- What stands between a scheme and an authority. -/
def schemeMark : List Char := "://".toList

/-- The characters after a scheme and its mark, if there is a scheme. -/
def afterScheme? (cs : List Char) : Option (List Char) :=
  let scheme := cs.takeWhile isSchemeChar
  let rest := cs.drop scheme.length
  if schemeMark.isPrefixOf rest then some (rest.drop schemeMark.length) else none

/-- **The target of an absolute address.** -/
def ofAbsolute? (cs : List Char) : Option Target :=
  let authority := cs.takeWhile (!endsAuthority ·)
  if authority.isEmpty || !isAuthority authority then none else ofPath? (cs.drop authority.length)

/-! ## (3) Targets -/

/-- The longest target, in bytes. -/
def sizeLimit : Nat := 65534

/-- The target of an authority alone, which has no path. -/
def authorityOnly : Target := ⟨"", "/"⟩

/-- The target that stands for the server as a whole. -/
def asterisk : Target := ⟨"*", "*"⟩

/-- **The target of a text.** -/
def ofText? (s : String) : Option Target :=
  let cs := s.toList
  if s = "" || sizeLimit < s.utf8ByteSize then none
  else if s = "*" then some asterisk
  else if cs.head? = some '/' then ofPath? cs
  else
    match afterScheme? cs with
    | some rest =>
      if schemeLimit < (cs.takeWhile isSchemeChar).length then none else ofAbsolute? rest
    | none => if isAuthority cs then some authorityOnly else none

end Target

end Http

end MediaTransform
