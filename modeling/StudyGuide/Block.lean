import StudyGuide.Text.Basic

/-!
Blocks, the units of a study guide: one line of text and the role it plays.
-/

set_option autoImplicit false
set_option relaxedAutoImplicit false

namespace StudyGuide

inductive BlockKind where
  /-- Names a section. -/
  | heading
  /-- Says what the next idea is for. -/
  | contextNote
  /-- Compares with something of everyday life. -/
  | analogyNote
  /-- Asks the reader to recall. -/
  | challengeQuestion
  /-- Warns of a common mistake. -/
  | warning
  | paragraph
deriving DecidableEq, Repr

namespace BlockKind

def all : List BlockKind :=
  [heading, contextNote, analogyNote, challengeQuestion, warning, paragraph]

theorem mem_all (kind : BlockKind) : kind ∈ all := by
  cases kind <;> decide

def name : BlockKind → Text
  | heading => "heading"
  | contextNote => "context_note"
  | analogyNote => "analogy_note"
  | challengeQuestion => "challenge_question"
  | warning => "warning"
  | paragraph => "paragraph"

def ofName? (name : Text) : Option BlockKind := all.find? fun kind ↦ kind.name == name

theorem ofName?_name (kind : BlockKind) : ofName? kind.name = some kind := by
  cases kind <;> rfl

end BlockKind

structure Block where
  kind : BlockKind
  text : Text
deriving DecidableEq, Repr

end StudyGuide
