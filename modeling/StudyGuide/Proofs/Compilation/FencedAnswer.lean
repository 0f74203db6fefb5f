import Mathlib.Data.Bool.AllAny
import StudyGuide.Proofs.Compilation.Content
import StudyGuide.Proofs.Sanitizer.CleanText

/-!
An answer that a model has put into a code fence as a whole. The fences are lines of the content
like any other: the one at the end leaves no block, but the one at the front stands where the
title is looked for, and the title line of the answer itself moves into the body
(`content_fenced`). So the fences go unnoticed in one case only: the answer has a fence for its
title already (`compile_fenced`).
-/

set_option autoImplicit false
set_option relaxedAutoImplicit false

namespace StudyGuide

open Text Sanitizer

namespace Compilation

def fence : Text := ['\x60', '\x60', '\x60']

/-- The answer between two fences, the first of which names a language. -/
def fenced (tag raw : Text) : Text := fence ++ tag ++ '\n' :: (raw ++ '\n' :: fence)

/-! ### Fences as lines -/

theorem isFence_iff (line : Text) : isFence line = true ↔ fence <+: line :=
  startsWith_iff line fence

theorem isTrimmed_of_no_blank {text : Text} (h : ∀ c ∈ text, isBlank c = false) :
    IsTrimmed text :=
  ⟨fun c hc ↦ h c (List.mem_of_mem_head? hc), fun c hc ↦ h c (List.mem_of_mem_getLast? hc)⟩

theorem no_blank_fence_append {tag : Text} (htag : ∀ c ∈ tag, isBlank c = false) :
    ∀ c ∈ fence ++ tag, isBlank c = false := by
  have hfence : ∀ c ∈ fence, isBlank c = false := List.all_iff_forall_prop.mp (by decide)
  exact List.forall_mem_append.mpr ⟨hfence, htag⟩

theorem trim_fence_append {tag : Text} (htag : ∀ c ∈ tag, isBlank c = false) :
    trim (fence ++ tag) = fence ++ tag :=
  (trim_eq_self_iff _).mpr (isTrimmed_of_no_blank (no_blank_fence_append htag))

theorem segments_fence_append {tag : Text} (htag : ∀ c ∈ tag, isBlank c = false) :
    segments (fence ++ tag) = [fence ++ tag] := by
  refine segments_eq_singleton fun c hc ↦ Bool.eq_false_iff.mpr fun hend ↦ ?_
  exact absurd (isBlank_of_isLineEnd hend) (by simp [no_blank_fence_append htag c hc])

/-- The fences come first and last in the content, around that of the answer. -/
theorem content_fenced {tag : Text} (htag : ∀ c ∈ tag, isBlank c = false) (raw : Text) :
    content (fenced tag raw) = (fence ++ tag) :: (content raw ++ [fence]) := by
  have hfirst : segments (fence ++ tag) = [fence ++ tag] := segments_fence_append htag
  have hlast : segments (fence ++ []) = [fence ++ []] := segments_fence_append (by simp)
  rw [List.append_nil] at hlast
  have htrim : trim (fence ++ tag) ≠ [] := by
    rw [trim_fence_append htag]
    exact List.cons_ne_nil _ _
  have hink : trim fence ≠ [] := by decide
  rw [content, fenced, segments_append_newline, segments_append_newline, hfirst, hlast,
    List.filter_append, List.filter_append, List.filter_cons_of_pos (by simpa using htrim),
    List.filter_cons_of_pos (by simpa using hink)]
  rfl

/-! ### Titles that are fences -/

/-- A fence is a title like any other, and keeps its language. -/
theorem titleOf?_fence_append {tag : Text} (htag : ∀ c ∈ tag, isBlank c = false) :
    titleOf? (fence ++ tag) = some (fence ++ stripEmphasis tag) := by
  have hstrip : stripEmphasis (fence ++ tag) = fence ++ stripEmphasis tag := List.filter_append ..
  have hrest : ∀ c ∈ stripEmphasis tag, isBlank c = false :=
    fun c hc ↦ htag c (List.mem_of_mem_filter hc)
  rw [titleOf?_eq_ite, hstrip, trim_fence_append hrest]
  exact if_neg (List.cons_ne_nil _ _)

theorem fence_prefix_trim_append (rest : Text) : fence <+: trim (fence ++ rest) := by
  have hstart : trimStart (fence ++ rest) = fence ++ rest := rfl
  rw [trim, hstart, trimEnd_append]
  split_ifs
  · exact List.prefix_rfl
  · exact List.prefix_append _ _

/-- A line that would give no title, or a fence for one, leaves no block. -/
theorem blockOf?_eq_none_of_titleOf? {line : Text}
    (h : ∀ title ∈ titleOf? line, fence <+: title) (sanitizer : Sanitizer) :
    blockOf? sanitizer line = none := by
  have hclean : sanitizer.sanitizeLine line = none := by
    refine Option.eq_none_iff_forall_ne_some.mpr fun kept hkept ↦ ?_
    obtain ⟨hkept, hne, hfence, -⟩ := (cleanLine_eq_some_iff ..).mp hkept
    rw [trim_stripped] at hkept
    rw [titleOf?_eq_ite] at h
    split_ifs at h with hnil
    · rw [hnil] at hkept
      exact hne hkept.symm
    · obtain ⟨rest, hrest⟩ := h _ rfl
      rw [← hrest] at hkept
      have hprefix : fence <+: kept := hkept ▸ fence_prefix_trim_append (removeInvisible rest)
      exact absurd ((isFence_iff kept).mpr hprefix) (by simp [hfence])
  rw [blockOf?, hclean, Option.bind_none]

/-! ### Documents -/

theorem filterMap_eq_head_append_tail {α β : Type} (f : α → Option β) (items : List α) :
    items.filterMap f = (items.head?.bind f).toList ++ items.tail.filterMap f := by
  cases items with
  | nil => rfl
  | cons item rest => cases h : f item <;> simp [h]

section

variable {tag : Text} (htag : ∀ c ∈ tag, isBlank c = false)
include htag

theorem document_fenced (sanitizer : Sanitizer) (fallbackTitle raw author : Text) :
    (compileWith sanitizer fallbackTitle (fenced tag raw) author).1 =
      { title := fence ++ stripEmphasis tag
        author
        blocks := ((content raw).head?.bind (blockOf? sanitizer)).toList ++
          (compileWith sanitizer fallbackTitle raw author).1.blocks } := by
  have hend : blockOf? sanitizer fence = none :=
    blockOf?_eq_none_of_titleOf? (fun title htitle ↦ by
      rw [← Option.some.inj htitle]
      exact List.prefix_rfl) sanitizer
  rw [document_compileWith, document_compileWith, content_fenced htag, List.head?_cons,
    Option.bind_some, titleOf?_fence_append htag, Option.getD_some, List.tail_cons,
    List.filterMap_append, List.filterMap_cons_none hend, List.filterMap_nil, List.append_nil,
    filterMap_eq_head_append_tail]

/-- Fences around an answer go unnoticed exactly where the title is such a fence without them. -/
theorem document_fenced_eq_iff (sanitizer : Sanitizer) (fallbackTitle raw author : Text) :
    (compileWith sanitizer fallbackTitle (fenced tag raw) author).1 =
        (compileWith sanitizer fallbackTitle raw author).1 ↔
      (compileWith sanitizer fallbackTitle raw author).1.title = fence ++ stripEmphasis tag := by
  constructor
  · intro h
    rw [← h, document_fenced htag]
  · intro htitle
    have hfirst : (content raw).head?.bind (blockOf? sanitizer) = none := by
      refine Option.bind_eq_none_iff.mpr fun line hline ↦ ?_
      refine blockOf?_eq_none_of_titleOf? (fun title hline_title ↦ ?_) sanitizer
      rw [document_compileWith, hline, Option.bind_some, hline_title] at htitle
      exact ⟨stripEmphasis tag, htitle.symm⟩
    rw [document_fenced htag, hfirst, ← htitle]
    rfl

/-- The fence is the title of an answer in a fence, whatever the answer has for a title; the line
of that title becomes a block, if it can be one, before all others. The guide is that of the
answer alone exactly where the answer has the same fence for its title. -/
theorem compile_fenced (raw author : Text) :
    (compile (fenced tag raw) author).title = fence ++ stripEmphasis tag ∧
      (compile (fenced tag raw) author).blocks =
        ((content raw).head?.bind (blockOf? default)).toList ++ (compile raw author).blocks ∧
      (compile (fenced tag raw) author = compile raw author ↔
        (compile raw author).title = fence ++ stripEmphasis tag) := by
  have hdocument := document_fenced htag default defaultTitle raw author
  refine ⟨?_, ?_, document_fenced_eq_iff htag default defaultTitle raw author⟩
  · rw [compile, hdocument]
  · rw [compile, hdocument, compile]

end

/-- An answer that begins with a fence of its own is the same guide inside another. -/
theorem fence_inside_fence :
    (∀ c ∈ ("md" : Text), isBlank c = false) ∧
      compile (fenced "md" "\x60\x60\x60md\nTexto") [] = compile "\x60\x60\x60md\nTexto" [] := by
  have htag : ∀ c ∈ ("md" : Text), isBlank c = false := List.all_iff_forall_prop.mp (by decide)
  refine ⟨htag, (compile_fenced htag _ []).2.2.mpr ?_⟩
  decide +kernel

/-- The title of a fenced answer is lost. -/
theorem fence_takes_the_title :
    compile (fenced [] "Fotosíntesis\nSECCIÓN: Luz") [] ≠
      compile "Fotosíntesis\nSECCIÓN: Luz" [] := by
  decide +kernel

end Compilation

end StudyGuide
