/-!
The unified difference of two texts, line by line.

An edit script is a list of blocks of kept, deleted and inserted lines.  It is found by splitting the
texts at the middle of a shortest script, and then tidied: insertions move as far down as they can,
blocks that meet are merged, and deletions come before insertions.

A block says where it was found in both texts.  A block that moves over kept lines counts them; two
blocks that only trade places keep their numbers, and a hunk is headed by those of its first and last
block.
-/

namespace MockCluster.LineDiff

/-- The lines of a text with their ends, which are `\n`, `\r\n` or `\r`. -/
def splitLines (text : String) : List String :=
  go [] text.toList
where
  go (line : List Char) : List Char → List String
    | [] => if line.isEmpty then [] else [String.ofList line.reverse]
    | '\r' :: '\n' :: rest => String.ofList ('\n' :: '\r' :: line).reverse :: go [] rest
    | c :: rest =>
      if c = '\n' ∨ c = '\r' then String.ofList (c :: line).reverse :: go [] rest
      else go (c :: line) rest

structure Place where
  old : Nat
  new : Nat
  deriving DecidableEq, Repr

namespace Place

def down (place : Place) (count : Nat) : Place :=
  ⟨place.old + count, place.new + count⟩

def up (place : Place) (count : Nat) : Place :=
  ⟨place.old - count, place.new - count⟩

end Place

inductive Block where
  | keep (start : Place) (lines : List String)
  | delete (start : Place) (lines : List String)
  | insert (start : Place) (lines : List String)
  deriving DecidableEq, Repr

namespace Block

def lines : Block → List String
  | .keep _ lines | .delete _ lines | .insert _ lines => lines

def start : Block → Place
  | .keep start _ | .delete start _ | .insert start _ => start

def stop : Block → Place
  | .keep start lines => start.down lines.length
  | .delete start lines => { start with old := start.old + lines.length }
  | .insert start lines => { start with new := start.new + lines.length }

end Block

def commonLength : List String → List String → Nat
  | x :: xs, y :: ys => if x = y then commonLength xs ys + 1 else 0
  | _, _ => 0

def commonEnd (xs ys : List String) : Nat :=
  commonLength xs.reverse ys.reverse

namespace Search

/-- The farthest positions reached on the diagonals around the middle one. -/
structure Reach where
  middle : Nat
  farthest : Array Nat

namespace Reach

def empty (distance : Nat) : Reach := ⟨distance + 1, Array.replicate (2 * distance + 3) 0⟩

def get (reach : Reach) (diagonal : Int) : Nat :=
  reach.farthest.getD (reach.middle + diagonal).toNat 0

def set (reach : Reach) (diagonal : Int) (position : Nat) : Reach :=
  { reach with
    farthest := reach.farthest.setIfInBounds (reach.middle + diagonal).toNat position }

def arrive (reach : Reach) (d : Nat) (diagonal : Int) : Nat :=
  if diagonal = -d ∨ (diagonal ≠ d ∧ reach.get (diagonal - 1) < reach.get (diagonal + 1)) then
    reach.get (diagonal + 1)
  else reach.get (diagonal - 1) + 1

end Reach

def agreement (xs ys : Array String) (x y : Nat) : Nat :=
  go (xs.size - x) x y
where
  go : Nat → Nat → Nat → Nat
    | 0, _, _ => 0
    | left + 1, x, y =>
      match xs[x]?, ys[y]? with
      | some a, some b => if a = b then go left (x + 1) (y + 1) + 1 else 0
      | _, _ => 0

def diagonals (d : Nat) : List Int :=
  (List.range (d + 1)).map fun (i : Nat) => (d : Int) - 2 * (i : Int)

/-- Extends the paths of one side by one edit.  `found` tells whether a path that has come to a
diagonal meets one of the other side, and stops the search. -/
def extend (xs ys : Array String) (d : Nat)
    (found : Reach → (diagonal : Int) → (start : Nat) → Option (Nat × Nat)) (reach : Reach) :
    Except (Nat × Nat) Reach :=
  (diagonals d).foldlM (fun reach diagonal => do
    let start := reach.arrive d diagonal
    let row := ((start : Int) - diagonal).toNat
    let reach := reach.set diagonal (start + agreement xs ys start row)
    match found reach diagonal start with
    | some point => .error point
    | none => .ok reach) reach

/-- The point at which the paths from both ends first meet, with paths of at most `tries` edits. -/
def meet (xs ys : Array String) : (tries d : Nat) → (forward backward : Reach) →
    Option (Nat × Nat)
  | 0, _, _, _ => none
  | tries + 1, d, forward, backward =>
    let delta : Int := (xs.size : Int) - ys.size
    let odd := delta % 2 = 1
    let foundForward (reach : Reach) (diagonal : Int) (start : Nat) : Option (Nat × Nat) :=
      if odd ∧ (diagonal - delta).natAbs + 1 ≤ d ∧
          reach.get diagonal + backward.get (delta - diagonal) ≥ xs.size then
        some (start, ((start : Int) - diagonal).toNat)
      else none
    match extend xs ys d foundForward forward with
    | .error point => some point
    | .ok forward =>
      let foundBackward (reach : Reach) (diagonal : Int) (_ : Nat) : Option (Nat × Nat) :=
        let position := reach.get diagonal
        if ¬odd ∧ (diagonal - delta).natAbs ≤ d ∧
            position + forward.get (delta - diagonal) ≥ xs.size then
          some (xs.size - position, ys.size - ((position : Int) - diagonal).toNat)
        else none
      match extend xs.reverse ys.reverse d foundBackward backward with
      | .error point => some point
      | .ok backward => meet xs ys tries (d + 1) forward backward

def middle (xs ys : List String) : Option (Nat × Nat) :=
  let most := (xs.length + ys.length + 1) / 2 + 1
  meet xs.toArray ys.toArray most 0 (.empty most) (.empty most)

end Search

/-- A shortest edit script from a place on, found by halves; `depth` bounds the halving. -/
def scriptWithin : (depth : Nat) → Place → (old new : List String) → List Block
  | 0, start, old, new => [.delete start old, .insert start new]
  | depth + 1, start, old, new =>
    let front := commonLength old new
    let oldRest := old.drop front
    let newRest := new.drop front
    let back := commonEnd oldRest newRest
    let oldCore := oldRest.take (oldRest.length - back)
    let newCore := newRest.take (newRest.length - back)
    let place := start.down front
    let core :=
      match oldCore, newCore with
      | [], [] => []
      | _, [] => [Block.delete place oldCore]
      | [], _ => [Block.insert place newCore]
      | _, _ =>
        match Search.middle oldCore newCore with
        | some (x, y) =>
          scriptWithin depth place (oldCore.take x) (newCore.take y) ++
            scriptWithin depth ⟨place.old + x, place.new + y⟩ (oldCore.drop x) (newCore.drop y)
        | none => [Block.delete place oldCore, Block.insert place newCore]
    let behind : Place := ⟨place.old + oldCore.length, place.new + newCore.length⟩
    Block.keep start (old.take front) :: core ++
      [Block.keep behind (oldRest.drop (oldRest.length - back))]

def script (old new : List String) : List Block :=
  (scriptWithin (old.length + new.length + 1) ⟨0, 0⟩ old new).filter fun block => block.lines ≠ []

namespace Tidy

/-- The blocks before the present one, nearest first, and those after it. -/
structure Cursor where
  before : List Block
  block : Block
  after : List Block

def weight (blocks : List Block) : Nat :=
  blocks.foldl (fun total block => total + block.lines.length + 1) 0

def cons (start : Place) (lines : List String) : List Block → List Block
  | .keep next more :: rest => .keep (next.up lines.length) (lines ++ more) :: rest
  | blocks => .keep start lines :: blocks

def up : (steps : Nat) → Cursor → Cursor
  | 0, cursor => cursor
  | steps + 1, cursor =>
    match cursor.before, cursor.block with
    | [], _ => cursor
    | .keep _ [] :: before, _ => up steps { cursor with before := before }
    | .keep place kept :: before, .insert start lines =>
      let shared := commonEnd kept lines
      if shared = 0 then cursor
      else
        let left := kept.take (kept.length - shared)
        let moved := kept.drop (kept.length - shared)
        let behind : Place :=
          ⟨place.old + kept.length - shared, start.new + lines.length - shared⟩
        up steps
          { before := if left = [] then before else .keep place left :: before
            block := .insert (start.up shared) (moved ++ lines.take (lines.length - shared))
            after := cons behind moved cursor.after }
    | .keep _ _ :: _, _ => cursor
    | .insert start first :: before, .insert _ lines =>
      up steps { cursor with before := before, block := .insert start (first ++ lines) }
    | .delete start first :: before, .delete _ lines =>
      up steps { cursor with before := before, block := .delete start (first ++ lines) }
    | other :: before, _ =>
      up steps { cursor with before := before, after := other :: cursor.after }

def snoc (start : Place) (lines : List String) : List Block → List Block
  | .keep place last :: rest => .keep place (last ++ lines) :: rest
  | before => .keep start lines :: before

def down : (steps : Nat) → Cursor → Cursor
  | 0, cursor => cursor
  | steps + 1, cursor =>
    match cursor.after, cursor.block with
    | [], _ => cursor
    | .keep _ [] :: after, _ => down steps { cursor with after := after }
    | .keep place kept :: after, .insert start lines =>
      let shared := commonLength kept lines
      if shared = 0 then cursor
      else
        let moved := kept.take shared
        let left := kept.drop shared
        down steps
          { before := snoc ⟨place.old, start.new⟩ moved cursor.before
            block := .insert (start.down shared) (lines.drop shared ++ moved)
            after := if left = [] then after else .keep (place.down shared) left :: after }
    | .keep _ _ :: _, _ => cursor
    | .insert _ next :: after, .insert start lines =>
      down steps { cursor with after := after, block := .insert start (lines ++ next) }
    | .delete _ next :: after, .delete start lines =>
      down steps { cursor with after := after, block := .delete start (lines ++ next) }
    | other :: after, _ =>
      down steps { cursor with before := other :: cursor.before, after := after }

def sweep (moves : Block → Bool) : (steps : Nat) → (before after : List Block) → List Block
  | 0, before, after => before.reverse ++ after
  | _ + 1, before, [] => before.reverse
  | steps + 1, before, block :: after =>
    if moves block then
      let raised := up (weight before) ⟨before, block, after⟩
      let lowered := down (weight raised.after) raised
      sweep moves steps (lowered.block :: lowered.before) lowered.after
    else sweep moves steps (block :: before) after

def isDelete : Block → Bool
  | .delete _ _ => true
  | _ => false

def isInsert : Block → Bool
  | .insert _ _ => true
  | _ => false

structure Gathered where
  start : Place
  lines : List String

namespace Gathered

def empty : Gathered := ⟨⟨0, 0⟩, []⟩

def add (gathered : Gathered) (start : Place) (lines : List String) : Gathered :=
  if gathered.lines = [] then ⟨start, lines⟩ else { gathered with lines := gathered.lines ++ lines }

end Gathered

/-- Merges neighbouring blocks, with the deletions of a change before its insertions. -/
def merge (blocks : List Block) : List Block :=
  go .empty .empty .empty blocks
where
  keep (kept : Gathered) : List Block :=
    if kept.lines = [] then [] else [.keep kept.start kept.lines]
  /-- Closes a change.  Where lines replace others, the deletion tells the old place and the insertion
  the new one. -/
  close (deleted inserted : Gathered) : List Block :=
    match deleted.lines, inserted.lines with
    | [], [] => []
    | lines, [] => [.delete deleted.start lines]
    | [], lines => [.insert inserted.start lines]
    | old, new =>
      let place : Place := ⟨deleted.start.old, inserted.start.new⟩
      [.delete place old, .insert { place with old := place.old + old.length } new]
  go (kept deleted inserted : Gathered) : List Block → List Block
    | [] => keep kept ++ close deleted inserted
    | .keep start lines :: rest =>
      if deleted.lines = [] ∧ inserted.lines = [] then go (kept.add start lines) .empty .empty rest
      else keep kept ++ close deleted inserted ++ go ⟨start, lines⟩ .empty .empty rest
    | .delete start lines :: rest => go kept (deleted.add start lines) inserted rest
    | .insert start lines :: rest => go kept deleted (inserted.add start lines) rest

end Tidy

def edits (old new : List String) : List Block :=
  let blocks := script old new
  let steps := 2 * (old.length + new.length + blocks.length) + 1
  let deleted := Tidy.sweep Tidy.isDelete steps [] blocks
  Tidy.merge (Tidy.sweep Tidy.isInsert steps [] deleted)

def contextLines : Nat := 1

structure Hunk where
  blocks : List Block

namespace Hunk

def isChange (hunk : Hunk) : Bool :=
  hunk.blocks.any fun block => Tidy.isDelete block || Tidy.isInsert block

def lastKept (start : Place) (lines : List String) : Block :=
  let skipped := lines.length - contextLines
  .keep (start.down skipped) (lines.drop skipped)

/-- Cuts an edit script into hunks, where more lines are kept than two contexts show. -/
def cut (current : List Block) : List Block → List Hunk
  | [] => [⟨current⟩]
  | .keep start lines :: rest =>
    if lines.length > 2 * contextLines then
      ⟨current ++ [.keep start (lines.take contextLines)]⟩ :: cut [lastKept start lines] rest
    else cut (current ++ [.keep start lines]) rest
  | block :: rest => cut (current ++ [block]) rest

def trimEnd : List Block → List Block
  | [] => []
  | [.keep start lines] => [.keep start (lines.take contextLines)]
  | block :: rest => block :: trimEnd rest

def trimFront : List Block → List Block
  | .keep start lines :: rest => lastKept start lines :: rest
  | blocks => blocks

def ofBlocks (blocks : List Block) : List Hunk :=
  (cut [] (trimEnd (trimFront blocks))).filter isChange

/-- A range of lines, counted from one; an empty range names the line before it. -/
def rangeText (start length : Nat) : String :=
  if length = 1 then toString (start + 1)
  else if length = 0 then toString start ++ ",0"
  else toString (start + 1) ++ "," ++ toString length

def lineText (mark : String) (line : String) : String :=
  let ends :=
    match line.toList.getLast? with
    | some c => c = '\n' || c = '\r'
    | none => false
  if ends then mark ++ line else mark ++ line ++ "\n\\ No newline at end of file\n"

def blockText : Block → String
  | .keep _ lines => String.join (lines.map (lineText " "))
  | .delete _ lines => String.join (lines.map (lineText "-"))
  | .insert _ lines => String.join (lines.map (lineText "+"))

def header (first last : Block) : String :=
  "@@ -" ++ rangeText first.start.old (last.stop.old - first.start.old) ++
    " +" ++ rangeText first.start.new (last.stop.new - first.start.new) ++ " @@\n"

def text (hunk : Hunk) : String :=
  match hunk.blocks with
  | [] => ""
  | first :: rest =>
    header first (rest.getLastD first) ++ String.join (hunk.blocks.map blockText)

end Hunk

/-- The difference of two texts under their names; there is none for equal texts. -/
def unified (oldName newName old new : String) : String :=
  match Hunk.ofBlocks (edits (splitLines old) (splitLines new)) with
  | [] => ""
  | hunks =>
    "--- " ++ oldName ++ "\n+++ " ++ newName ++ "\n" ++ String.join (hunks.map Hunk.text)

end MockCluster.LineDiff
