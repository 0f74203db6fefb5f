import StudyGuide.Block
import StudyGuide.FileName

/-!
A study guide as data: a title, an author and one ordered stream of blocks.
-/

set_option autoImplicit false
set_option relaxedAutoImplicit false

namespace StudyGuide

structure Document where
  title : Text
  author : Text
  blocks : List Block
deriving DecidableEq, Repr

namespace Document

def isEmpty (doc : Document) : Bool := doc.blocks.isEmpty

def fileName (doc : Document) : Text := FileName.ofTitle doc.title

/-- Counts one more block of the kind; a kind not seen yet comes last. -/
def countKind (kind : BlockKind) : List (BlockKind × Nat) → List (BlockKind × Nat)
  | [] => [(kind, 1)]
  | (seen, count) :: rest =>
    if seen = kind then (seen, count + 1) :: rest else (seen, count) :: countKind kind rest

/-- The kinds that occur, in the order of their first block, with the number of their blocks. -/
def kindCountsOf (blocks : List Block) : List (BlockKind × Nat) :=
  blocks.foldl (fun counts block ↦ countKind block.kind counts) []

def kindCounts (doc : Document) : List (BlockKind × Nat) := kindCountsOf doc.blocks

end Document

end StudyGuide
