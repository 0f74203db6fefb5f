import Mathlib.Data.Bool.AllAny
import StudyGuide.Proofs.Compilation.Content

/-!
Each line of an answer is compiled by itself. Content is read piece by piece: a text that is cut at
a line end has the content of its two parts, one after the other (`content_append_of_isLineEnd`).
So under one title a body may be compiled in parts, and the blocks of the parts are the blocks of
the whole (`compileWith_append`).

What ends a line is not in the content either, and the same lines give the same guide however each
of them is ended (`compileWith_eq_of_writes`). They need not be read as the same lines: a CR, an
empty line and its LF are one CRLF to a reader. But a line that is lost in this way is empty, and
empty lines are no content.
-/

set_option autoImplicit false
set_option relaxedAutoImplicit false

namespace StudyGuide

namespace Text

/-- What may end a line. -/
inductive LineEnd where
  | lf
  | crlf
  | cr
deriving DecidableEq, Repr

def LineEnd.text : LineEnd → Text
  | .lf => ['\n']
  | .crlf => ['\r', '\n']
  | .cr => ['\r']

/-- The text is these lines, each with an end of its own choice; the last may do without. -/
inductive Writes : List Text → Text → Prop where
  | nil : Writes [] []
  | last (line : Text) : Writes [line] line
  | cons (line : Text) (lineEnd : LineEnd) {rest : List Text} {text : Text}
      (hrest : Writes rest text) : Writes (line :: rest) (line ++ (lineEnd.text ++ text))

end Text

namespace Compilation

open Text

/-! ### Content in parts -/

theorem content_append_of_isLineEnd {c : Char} (hc : isLineEnd c = true) (first second : Text) :
    content (first ++ c :: second) = content first ++ content second := by
  rw [content, segments_append_of_isLineEnd hc, List.filter_append]
  rfl

theorem content_append_lineEnd (lineEnd : LineEnd) (first second : Text) :
    content (first ++ (lineEnd.text ++ second)) = content first ++ content second := by
  cases lineEnd with
  | lf => exact content_append_of_isLineEnd (by decide) first second
  | cr => exact content_append_of_isLineEnd (by decide) first second
  | crlf =>
    have hcr : content (first ++ '\r' :: '\n' :: second) =
        content first ++ content ('\n' :: second) :=
      content_append_of_isLineEnd (by decide) first _
    -- Nothing stands between the CR and the LF.
    have hlf : content ('\n' :: second) = content [] ++ content second :=
      content_append_of_isLineEnd (by decide) [] second
    show content (first ++ '\r' :: '\n' :: second) = content first ++ content second
    rw [hcr, hlf]
    rfl

theorem content_of_no_break {line : Text} (hline : ∀ c ∈ line, c ∉ ['\n', '\r']) :
    content line = [line].filter fun line ↦ trim line ≠ [] := by
  have hsegments : segments line = [line] := by
    refine segments_eq_singleton fun c hc ↦ ?_
    simpa [isLineEnd] using hline c hc
  rw [content, hsegments]

/-! ### Documents by their content -/

theorem usesDefaultTitle_compileWith (sanitizer : Sanitizer) (fallbackTitle raw author : Text) :
    (compileWith sanitizer fallbackTitle raw author).2.usesDefaultTitle =
      ((content raw).head?.bind titleOf?).isNone := by
  rw [← splitTitle_fst]
  rfl

section

variable {title : Text} (hink : isBlankText title = false) (hbreak : ∀ c ∈ title, c ∉ ['\n', '\r'])
include hink hbreak

theorem content_under_title (body : Text) :
    content (title ++ '\n' :: body) = title :: content body := by
  have htrim : trim title ≠ [] := by
    rw [ne_eq, trim_eq_nil_iff, hink]
    exact Bool.false_ne_true
  rw [content_append_of_isLineEnd (by decide), content_of_no_break hbreak,
    List.filter_cons_of_pos (by simpa using htrim)]
  rfl

/-- Under a title line that is not blank, the blocks of a body in two parts are those of the first
part and then those of the second, whatever the parts end and begin with; the title is that of any
body under the same line. -/
theorem compileWith_append (sanitizer : Sanitizer) (fallbackTitle author first second : Text) :
    let under (body : Text) :=
      compileWith sanitizer fallbackTitle (title ++ '\n' :: body) author
    let whole := under (first ++ '\n' :: second)
    whole.1.blocks = (under first).1.blocks ++ (under second).1.blocks ∧
      ∀ body, (under body).1.title = whole.1.title ∧
        (under body).2.usesDefaultTitle = whole.2.usesDefaultTitle := by
  intro under whole
  have hcontent (body : Text) : content (title ++ '\n' :: body) = title :: content body :=
    content_under_title hink hbreak body
  have hblocks (body : Text) :
      (under body).1.blocks = (content body).filterMap (blockOf? sanitizer) := by
    simp only [under, document_compileWith, hcontent, List.tail_cons]
  have htitle (body : Text) : (under body).1.title = (titleOf? title).getD fallbackTitle := by
    simp only [under, document_compileWith, hcontent, List.head?_cons, Option.bind_some]
  have hdefault (body : Text) : (under body).2.usesDefaultTitle = (titleOf? title).isNone := by
    simp only [under, usesDefaultTitle_compileWith, hcontent, List.head?_cons, Option.bind_some]
  refine ⟨?_, fun body ↦ ⟨?_, ?_⟩⟩
  · show (under (first ++ '\n' :: second)).1.blocks = _
    rw [hblocks, hblocks, hblocks, content_append_of_isLineEnd (by decide), List.filterMap_append]
  · exact (htitle body).trans (htitle _).symm
  · exact (hdefault body).trans (hdefault _).symm

end

/-- A part that ends with CR is a part by itself, though CR and the LF after it are one line end. -/
theorem blocks_across_crlf :
    isBlankText "Sol" = false ∧ (∀ c ∈ ("Sol" : Text), c ∉ ['\n', '\r']) ∧
      (compile ("Sol" ++ '\n' :: ("RETO: Luz\r" ++ '\n' :: "NOTA: Agua")) []).blocks =
        (compile ("Sol" ++ '\n' :: "RETO: Luz\r") []).blocks ++
          (compile ("Sol" ++ '\n' :: "NOTA: Agua") []).blocks := by
  have hink : isBlankText "Sol" = false := by decide
  have hbreak : ∀ c ∈ ("Sol" : Text), c ∉ ['\n', '\r'] :=
    List.all_iff_forall_prop.mp (by decide)
  exact ⟨hink, hbreak,
    (compileWith_append hink hbreak default defaultTitle [] "RETO: Luz\r" "NOTA: Agua").1⟩

/-! ### Line ends -/

/-- Whatever ends the lines, the content is the lines that are not blank. -/
theorem content_of_writes {lines : List Text} {text : Text} (h : Writes lines text)
    (hlines : ∀ line ∈ lines, ∀ c ∈ line, c ∉ ['\n', '\r']) :
    content text = lines.filter fun line ↦ trim line ≠ [] := by
  induction h with
  | nil => rfl
  | last line => exact content_of_no_break (hlines line List.mem_cons_self)
  | cons line lineEnd hrest ih =>
    obtain ⟨hline, hlines⟩ := List.forall_mem_cons.mp hlines
    rw [content_append_lineEnd, content_of_no_break hline, ih hlines, ← List.filter_append]
    rfl

/-- Two texts that are the same lines with other line ends give the same document, and both use
the default title or neither does. -/
theorem compileWith_eq_of_writes {lines : List Text} {first second : Text}
    (hlines : ∀ line ∈ lines, ∀ c ∈ line, c ∉ ['\n', '\r']) (hfirst : Writes lines first)
    (hsecond : Writes lines second) (sanitizer : Sanitizer) (fallbackTitle author : Text) :
    let one := compileWith sanitizer fallbackTitle first author
    let other := compileWith sanitizer fallbackTitle second author
    one.1 = other.1 ∧ one.2.usesDefaultTitle = other.2.usesDefaultTitle := by
  intro one other
  have hcontent : content first = content second :=
    (content_of_writes hfirst hlines).trans (content_of_writes hsecond hlines).symm
  constructor
  · simp only [one, other, document_compileWith, hcontent]
  · simp only [one, other, usesDefaultTitle_compileWith, hcontent]

/-- The empty line in the middle goes unread where its LF comes after a CR, and the guide is the
same. -/
theorem fused_line_ends :
    (∀ line ∈ [("Sol" : Text), [], "Luz"], ∀ c ∈ line, c ∉ ['\n', '\r']) ∧
      Writes ["Sol", [], "Luz"] "Sol\r\nLuz" ∧ Writes ["Sol", [], "Luz"] "Sol\r\n\r\nLuz\r" ∧
      compile "Sol\r\nLuz" [] = compile "Sol\r\n\r\nLuz\r" [] := by
  have hlines : ∀ line ∈ [("Sol" : Text), [], "Luz"], ∀ c ∈ line, c ∉ ['\n', '\r'] := by
    refine fun line hline ↦ List.all_iff_forall_prop.mp ?_
    revert line
    decide
  have hfused : Writes ["Sol", [], "Luz"] "Sol\r\nLuz" := .cons _ .cr (.cons _ .lf (.last _))
  have hapart : Writes ["Sol", [], "Luz"] "Sol\r\n\r\nLuz\r" :=
    .cons _ .crlf (.cons _ .crlf (.cons _ .cr .nil))
  have hsame := compileWith_eq_of_writes hlines hfused hapart default defaultTitle []
  exact ⟨hlines, hfused, hapart, hsame.1⟩

end Compilation

end StudyGuide
