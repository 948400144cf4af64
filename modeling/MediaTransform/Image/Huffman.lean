import MediaTransform.Image.Deflate

/-! # Codes by frequency

Lengths of codes for symbols by how often they occur, such that frequent symbols have short codes.
Equal frequencies are settled by the order in which a heap gives up its entries, so the heap is part
of the rule.

* **`Heap`** — a binary heap of weighted nodes, the lightest on top.
* **`Huffman.lengths`** — the lengths of the codes, at most a given one.
* **`Huffman.codes`** — the codes of lengths. -/

namespace MediaTransform

/-- A node with its weight. -/
structure Weighted where
  weight : Nat
  node : Nat
  deriving Inhabited

/-- **A binary heap**: the entries at `2 * i + 1` and `2 * i + 2` are below the one at `i`, and are
not lighter. -/
abbrev Heap := Array Weighted

namespace Heap

/-- The weight of an entry. -/
def weight (h : Heap) (i : Nat) : Nat := (h.getD i default).weight

/-- The lighter one of the two entries below one; the second of equals. -/
def lighterBelow (h : Heap) (i : Nat) : Nat :=
  if h.weight (2 * i + 2) ≤ h.weight (2 * i + 1) then 2 * i + 2 else 2 * i + 1

/-- Entries below a place move up while they are lighter than `x`, which then takes the last place;
at most `fuel` moves. -/
def sinkFrom (x : Weighted) : Nat → Nat → Heap → Heap
  | 0, i, h => h.setIfInBounds i x
  | fuel + 1, i, h =>
    let below := if 2 * i + 2 < h.size then h.lighterBelow i else 2 * i + 1
    if h.size ≤ below ∨ x.weight ≤ h.weight below then h.setIfInBounds i x
    else sinkFrom x fuel below (h.setIfInBounds i (h.getD below x))

/-- The heap with `x` on top, sunk to where it belongs. -/
def replaceTop (h : Heap) (x : Weighted) : Heap := sinkFrom x h.size 0 h

/-- The lighter entries below a place move up, down to the last place; at most `fuel` moves. -/
def hollowFrom : Nat → Nat → Heap → Nat × Heap
  | 0, i, h => (i, h)
  | fuel + 1, i, h =>
    let below := if 2 * i + 2 < h.size then h.lighterBelow i else 2 * i + 1
    if h.size ≤ below then (i, h)
    else hollowFrom fuel below (h.setIfInBounds i (h.getD below default))

/-- `x` moves up from a place while the entry above is heavier; at most `fuel` moves. -/
def riseFrom (x : Weighted) : Nat → Nat → Heap → Heap
  | 0, i, h => h.setIfInBounds i x
  | fuel + 1, i, h =>
    let above := (i - 1) / 2
    if i = 0 ∨ h.weight above ≤ x.weight then h.setIfInBounds i x
    else riseFrom x fuel above (h.setIfInBounds i (h.getD above x))

/-- **The top entry and the rest**: the last entry takes the hollow that the lighter entries leave,
and rises. -/
def pop? (h : Heap) : Option (Weighted × Heap) :=
  match h[0]?, h.back? with
  | some top, some last =>
    let rest := h.pop
    if rest.isEmpty then some (top, rest)
    else
      let (i, hollow) := hollowFrom rest.size 0 rest
      some (top, riseFrom last rest.size i hollow)
  | _, _ => none

/-- The heap of entries, settled from the last inner place to the top. -/
def ofArray (a : Array Weighted) : Heap :=
  (List.range (a.size / 2)).reverse.foldl
    (fun h i => sinkFrom (h.getD i default) h.size i h) a

end Heap

namespace Huffman

/-! ## (1) Trees -/

/-- A tree whose leaves are symbols. -/
inductive Tree where
  | leaf (symbol : Nat)
  | node (left right : Tree)

/-- Trees of the heap joined two by two, the lightest first; nodes are numbers of trees, and at most
`fuel` are joined. -/
def joinFrom : Nat → Heap → Array Tree → Option Tree
  | 0, _, _ => none
  | fuel + 1, h, trees =>
    match h.pop? with
    | none => none
    | some (first, rest) =>
      match rest[0]? with
      -- the last one left is the tree
      | none => trees[first.node]?
      | some second =>
        match trees[first.node]?, trees[second.node]? with
        | some a, some b =>
          joinFrom fuel (rest.replaceTop ⟨first.weight + second.weight, trees.size⟩)
            (trees.push (.node a b))
        | _, _ => none

/-- The depth of each leaf, at the place of its symbol. -/
def depths : Tree → Nat → Array Nat → Array Nat
  | .leaf s, depth, out => out.setIfInBounds s depth
  | .node a b, depth, out => depths b (depth + 1) (depths a (depth + 1) out)

/-! ## (2) Lengths -/

/-- How many codes there are of each length, with those that are too long cut to the limit. -/
def cutCounts (limit : Nat) (lengths : List Nat) : Array Nat :=
  Array.ofFn (n := limit + 1) fun n => (lengths.map (min · limit)).count n.val

/-- How many codes of the greatest length would fill the same room. -/
def filled (limit : Nat) (counts : Array Nat) : Nat :=
  ((List.range limit).map fun n => counts.getD (n + 1) 0 * 2 ^ (limit - (n + 1))).sum

/-- The greatest length below the limit that codes have. -/
def longestBelow (counts : Array Nat) : Nat → Nat
  | 0 => 0
  | n + 1 => if counts.getD (n + 1) 0 = 0 then longestBelow counts n else n + 1

/-- Codes made longer until all have room: of the longest ones below the limit one becomes two, and
one of the longest goes; at most `fuel` times. -/
def makeRoom (limit : Nat) : Nat → Array Nat → Array Nat
  | 0, counts => counts
  | fuel + 1, counts =>
    if filled limit counts ≤ 2 ^ limit then counts
    else
      -- a code of length `i` becomes two of `i + 1`, one of which takes in one of the greatest length
      let i := longestBelow counts (limit - 1)
      let less (n : Nat) (c : Array Nat) : Array Nat := c.modify n (· - 1)
      makeRoom limit fuel ((less limit (less i counts)).modify (i + 1) (· + 2))

/-- Lengths given to symbols from the rarest on, the longest first. -/
def hand : List Nat → List (Nat × Nat) → Array Nat → Array Nat
  | length :: rest, (symbol, _) :: symbols, out =>
    hand rest symbols (out.setIfInBounds symbol length)
  | _, _, out => out

/-- Lengths that are at most the limit. -/
def limited (limit : Nat) (frequencies : List Nat) (lengths : Array Nat) : Array Nat :=
  if lengths.all (· ≤ limit) then lengths
  else
    let counts := makeRoom limit (2 ^ limit) (cutCounts limit
      (lengths.toList.filter (· ≠ 0)))
    let descending := (List.range limit).reverse.flatMap fun n =>
      List.replicate (counts.getD (n + 1) 0) (n + 1)
    let rarest := ((frequencies.zipIdx.map fun e => (e.2, e.1)).filter (·.2 ≠ 0)).mergeSort
      (·.2 ≤ ·.2)
    hand descending rarest lengths

/-- **The lengths of the codes of symbols with given frequencies**; nothing unless at least two of
them occur. -/
def lengths? (limit : Nat) (frequencies : List Nat) : Option (List Nat) :=
  let entries := (frequencies.zipIdx.filter (·.1 ≠ 0)).map fun e => (⟨e.1, e.2⟩ : Weighted)
  if entries.length ≤ 1 then none
  else
    let leaves := ((List.range frequencies.length).map Tree.leaf).toArray
    (joinFrom (entries.length + 1) (Heap.ofArray entries.toArray) leaves).map fun tree =>
      (limited limit frequencies (depths tree 0 (Array.replicate frequencies.length 0))).toList

/-- **The codes of lengths**, at the places of their symbols. -/
def codes (lengths : List Nat) : Array Bits := (Deflate.codesFrom lengths [] lengths).toArray

end Huffman

end MediaTransform
