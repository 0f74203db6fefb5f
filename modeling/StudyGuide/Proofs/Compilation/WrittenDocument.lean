import Mathlib.Data.Bool.AllAny
import StudyGuide.Proofs.Compilation.CleanedLines

/-!
Documents written back as tagged text. A document is written as its title and one line for each
block, with the keyword of its kind in front. Compiling that text gives the document again
(`compile_written_compile`): a title is a line that is left alone, and the line of a block is
clean and stands for that block.

Two things carry the proof. The keyword and the colon shield the text behind them, which may look
like a keyword, an aside or a greeting of its own. And no marker can arise where the keyword meets
the text, since the marker would have to reach over the space between them
(`isInfix_append_cons_iff`).
-/

set_option autoImplicit false
set_option relaxedAutoImplicit false

namespace StudyGuide

open Text

/-! ### Writing -/

/-- A tagged line: the keyword, a colon and the text. -/
def Tag.written (keyword text : Text) : Text := keyword ++ ':' :: ' ' :: text

theorem Tag.written_eq (keyword text : Text) :
    Tag.written keyword text = keyword ++ [':', ' '] ++ text := by
  simp [Tag.written]

/-- The keyword that blocks of a kind are written with; paragraphs have none. -/
def Tag.keywordOf? : BlockKind → Option Text
  | .heading => some "SECCIÓN"
  | .contextNote => some "CONTEXTO"
  | .analogyNote => some "ANALOGÍA"
  | .challengeQuestion => some "RETO"
  | .warning => some "NOTA"
  | .paragraph => none

/-- The line that a block is written as. -/
def Block.written (block : Block) : Text :=
  match Tag.keywordOf? block.kind with
  | none => block.text
  | some keyword => Tag.written keyword block.text

/-- A document as text: its title and a line for each block. -/
def Document.written (doc : Document) : Text :=
  joinLines (doc.title :: doc.blocks.map Block.written)

namespace Tag

/-! ### What a tagged line stands for -/

theorem mem_keywords_of_keywordOf? {kind : BlockKind} {keyword : Text}
    (h : keywordOf? kind = some keyword) : (keyword, kind) ∈ keywords := by
  cases kind <;> cases h <;> decide

theorem uppercase_keyword : ∀ entry ∈ keywords, uppercase entry.1 = entry.1 := by
  decide +kernel

theorem keyword_ne_nil : ∀ entry ∈ keywords, entry.1 ≠ [] := by decide

theorem opening_written {entry : Text × BlockKind} (hentry : entry ∈ keywords) (text : Text) :
    opening (written entry.1 text) = entry.1 := by
  refine opening_append (isSeparator_keyword entry hentry) fun c hc ↦ ?_
  have hstart : trimStart (':' :: ' ' :: text) = ':' :: ' ' :: text :=
    trimStart_eq_self fun d hd ↦ by
      obtain rfl := Option.some.inj hd
      decide
  rw [hstart] at hc
  exact (Option.some.inj hc).symm

theorem remainder_written {entry : Text × BlockKind} (hentry : entry ∈ keywords) (text : Text) :
    remainder (written entry.1 text) = ' ' :: text := by
  have hword : ∀ c ∈ entry.1, decide (c ≠ ':') = true := fun c hc ↦
    decide_eq_true (ne_colon_of_not_isSeparator (isSeparator_keyword entry hentry c hc))
  rw [remainder, written, List.dropWhile_append_of_pos hword]
  rfl

theorem taggedText_written {entry : Text × BlockKind} (hentry : entry ∈ keywords) {text : Text}
    (hne : text ≠ []) (htrimmed : IsTrimmed text) :
    taggedText (written entry.1 text) = text := by
  have htrim : trim (' ' :: text) = text := by
    rw [trim, trimStart, List.dropWhile_cons_of_pos (by decide)]
    exact (trim_eq_self_iff text).mpr htrimmed
  have hblank : ¬isBlankText (' ' :: text) = true := by
    rw [← trim_eq_nil_iff, htrim]
    exact hne
  rw [taggedText, remainder_written hentry, if_neg hblank, htrim]

theorem isTrimmed_written {entry : Text × BlockKind} (hentry : entry ∈ keywords) {text : Text}
    (hne : text ≠ []) (htrimmed : IsTrimmed text) : IsTrimmed (written entry.1 text) := by
  constructor
  · intro c hc
    rw [written, List.head?_append_of_ne_nil _ (keyword_ne_nil entry hentry)] at hc
    exact isBlank_eq_false_of_not_isSeparator
      (isSeparator_keyword entry hentry c (List.mem_of_mem_head? hc))
  · intro c hc
    have hlast : (written entry.1 text).getLast? = text.getLast? := by
      rw [written_eq, List.getLast?_append_of_ne_nil _ hne]
    exact htrimmed.2 c (hlast ▸ hc)

/-- A tagged line stands for the block of its keyword and its text. -/
theorem classify_written {keyword : Text} {kind : BlockKind} (hkeyword : (keyword, kind) ∈ keywords)
    {text : Text} (hne : text ≠ []) (htrimmed : IsTrimmed text) :
    classify (written keyword text) = some ⟨kind, text⟩ := by
  have htrim : trim (written keyword text) = written keyword text :=
    (trim_eq_self_iff _).mpr (isTrimmed_written hkeyword hne htrimmed)
  rw [classify_eq_some_iff, htrim, opening_written hkeyword, uppercase_keyword _ hkeyword,
    taggedText_written hkeyword hne htrimmed]
  refine ⟨?_, Or.inl ⟨(mem_keywords_iff keyword kind).mp hkeyword, rfl⟩⟩
  simp [written]

/-- The text of a block stands in its line as it is. -/
theorem text_infix_of_classify {line : Text} {block : Block} (h : classify line = some block) :
    block.text <:+: trim line := by
  obtain ⟨-, ⟨-, htext⟩ | ⟨-, rfl⟩⟩ := (classify_eq_some_iff line block).mp h
  · rw [htext, taggedText]
    split_ifs with hblank
    · exact List.infix_rfl
    · have htrim : trim (remainder (trim line)) <:+: remainder (trim line) :=
        (isPrefix_trimEnd _).isInfix.trans (isSuffix_trimStart _).isInfix
      have hremainder : remainder (trim line) <:+ trim line :=
        (List.drop_suffix 1 _).trans (List.dropWhile_suffix _)
      exact htrim.trans hremainder.isInfix
  · exact List.infix_rfl

end Tag

/-! ### Clean lines -/

namespace Sanitizer

/-- The keywords hold nothing that is taken out. -/
theorem keyword_plain : ∀ entry ∈ Tag.keywords, ∀ c ∈ entry.1 ++ [':', ' '],
    c ∉ ['\n', '\r'] ∧ c ∉ ['*', '#', '_'] ∧
      c ∉ ['\u200B', '\uFEFF', '\u00AD', '\u200C', '\u200D', '\u2060'] := by
  refine fun entry hentry ↦ List.all_iff_forall_prop.mp ?_
  revert entry
  decide +kernel

/-- No keyword could open a preamble or a fence. -/
theorem keyword_no_opener : ∀ entry ∈ Tag.keywords, ∀ c ∈ entry.1,
    c ∉ ['!', '¡', '('] ∧ c ≠ '\x60' := by
  refine fun entry hentry ↦ List.all_iff_forall_prop.mp ?_
  revert entry
  decide

theorem markers_default : (default : Sanitizer).markers = [("analizado" : Text)] := by
  decide +kernel

theorem no_marker_in_keyword : ∀ entry ∈ Tag.keywords, ∀ marker ∈ (default : Sanitizer).markers,
    ¬marker <:+: evenLowercase (entry.1 ++ [':']) := by
  decide +kernel

/-- A marker that is not in a line is not in its text with a keyword in front either. -/
theorem no_marker_written {keyword text line marker : Text} {kind : BlockKind}
    (hkeyword : (keyword, kind) ∈ Tag.keywords) (htext : text <:+: line)
    (hmarker : marker ∈ (default : Sanitizer).markers) (hline : ¬marker <:+: lowercase line) :
    ¬marker <:+: lowercase (Tag.written keyword text) := by
  intro hfound
  have hplain : ∀ c ∈ marker, c ∉ [' ', 'σ', 'ς'] := by
    rw [markers_default, List.mem_singleton] at hmarker
    rw [hmarker]
    exact List.all_iff_forall_prop.mp (by decide)
  have hsigma : ∀ c ∈ marker, c ∉ ['σ', 'ς'] := fun c hc hmem ↦
    hplain c hc (List.mem_cons_of_mem _ hmem)
  have hspace : ' ' ∉ marker := fun hc ↦ hplain ' ' hc List.mem_cons_self
  have heven : evenLowercase (Tag.written keyword text) =
      evenLowercase (keyword ++ [':']) ++ ' ' :: evenLowercase text := by
    have hblank : evenLowercase [' '] = [' '] := by decide
    have hsplit : Tag.written keyword text = keyword ++ [':'] ++ ([' '] ++ text) := by
      simp [Tag.written]
    rw [hsplit, evenLowercase_append, evenLowercase_append [' '], hblank]
    rfl
  -- The lower case of the text may differ from that in the line, but only in its sigmas.
  rw [isInfix_lowercase_iff hsigma, heven, isInfix_append_cons_iff hspace] at hfound
  rcases hfound with hfound | hfound
  · exact no_marker_in_keyword _ hkeyword marker hmarker hfound
  · obtain ⟨before, after, rfl⟩ := htext
    refine hline ((isInfix_lowercase_iff hsigma _).mpr (hfound.trans ?_))
    rw [evenLowercase_append, evenLowercase_append]
    exact List.infix_append _ _ _

theorem isCleanLine_written {keyword text line : Text} {kind : BlockKind}
    (hkeyword : (keyword, kind) ∈ Tag.keywords) (hne : text ≠ []) (htrimmed : IsTrimmed text)
    (htext : text <:+: line) (hline : IsCleanLine default line) :
    IsCleanLine default (Tag.written keyword text) := by
  have hmem : ∀ c ∈ Tag.written keyword text, c ∈ keyword ++ [':', ' '] ∨ c ∈ line := by
    intro c hc
    rw [Tag.written_eq, List.mem_append] at hc
    exact hc.imp_right fun h ↦ htext.subset h
  have hplain := keyword_plain _ hkeyword
  have hhead : (Tag.written keyword text).head? = keyword.head? :=
    List.head?_append_of_ne_nil _ (Tag.keyword_ne_nil _ hkeyword)
  have hopener : ∀ c ∈ keyword.head?, c ∉ ['!', '¡', '('] ∧ c ≠ '\x60' := fun c hc ↦
    keyword_no_opener _ hkeyword c (List.mem_of_mem_head? hc)
  have hwritten := Tag.isTrimmed_written hkeyword hne htrimmed
  exact
    { not_blank := exists_not_isBlank_of_isTrimmed hwritten (by simp [Tag.written])
      trimmed := hwritten
      no_break := fun c hc ↦ (hmem c hc).elim (fun h ↦ (hplain c h).1) (hline.no_break c)
      no_emphasis := fun c hc ↦
        (hmem c hc).elim (fun h ↦ (hplain c h).2.1) (hline.no_emphasis c)
      no_invisible := fun c hc ↦
        (hmem c hc).elim (fun h ↦ (hplain c h).2.2) (hline.no_invisible c)
      no_opener := fun c hc ↦ (hopener c (hhead ▸ hc)).1
      no_fence := by
        rintro ⟨rest, hrest⟩
        have hfence : '\x60' ∈ keyword.head? := by
          rw [← hhead, ← hrest]
          rfl
        exact (hopener _ hfence).2 rfl
      no_marker := fun marker hmarker ↦
        no_marker_written hkeyword htext hmarker (hline.no_marker marker hmarker) }

end Sanitizer

/-! ### Titles -/

namespace Compilation

/-- A line that is left alone as a title. -/
structure IsTitle (title : Text) : Prop where
  ne_nil : title ≠ []
  trimmed : IsTrimmed title
  no_break : ∀ c ∈ title, c ∉ ['\n', '\r']
  no_emphasis : ∀ c ∈ title, Sanitizer.isEmphasis c = false

theorem isTitle_defaultTitle : IsTitle defaultTitle := by
  constructor
  · decide
  · constructor
    · intro c hc
      obtain rfl := Option.some.inj hc
      decide
    · intro c hc
      obtain rfl := Option.some.inj hc
      decide
  · exact List.all_iff_forall_prop.mp (by decide)
  · exact List.all_iff_forall_prop.mp (by decide)

theorem isTitle_of_titleOf? {line title : Text} (hbreak : ∀ c ∈ line, c ∉ ['\n', '\r'])
    (h : titleOf? line = some title) : IsTitle title := by
  unfold titleOf? at h
  dsimp only at h
  split_ifs at h with hnil
  obtain rfl := Option.some.inj h
  have hmem : ∀ c ∈ trim (Sanitizer.stripEmphasis (trim line)),
      c ∈ trim line ∧ Sanitizer.isEmphasis c = false := by
    intro c hc
    simpa using List.mem_filter.mp (mem_of_mem_trim hc)
  exact
    { ne_nil := hnil
      trimmed := isTrimmed_trim _
      no_break := fun c hc ↦ hbreak c (mem_of_mem_trim (hmem c hc).1)
      no_emphasis := fun c hc ↦ (hmem c hc).2 }

namespace IsTitle

variable {title : Text}

theorem trim_eq (h : IsTitle title) : trim title = title := (trim_eq_self_iff title).mpr h.trimmed

theorem titleOf?_eq (h : IsTitle title) : titleOf? title = some title := by
  have hstrip : Sanitizer.stripEmphasis title = title :=
    List.filter_eq_self.mpr fun c hc ↦ by simp [h.no_emphasis c hc]
  unfold titleOf?
  dsimp only
  rw [h.trim_eq, hstrip, h.trim_eq, if_neg h.ne_nil]

end IsTitle

theorem mem_of_splitLines {texts : List Text} {line : Text}
    (h : (splitLines texts).1 = some line) : line ∈ texts := by
  induction texts with
  | nil => contradiction
  | cons text rest ih =>
    rw [splitLines] at h
    split_ifs at h with hblank
    · exact List.mem_cons_of_mem text (ih h)
    · exact Option.some.inj h ▸ List.mem_cons_self

/-- Whatever the text, the title of its document would be left alone. -/
theorem isTitle_title {fallbackTitle : Text} (hfallback : IsTitle fallbackTitle)
    (sanitizer : Sanitizer) (raw author : Text) :
    IsTitle (compileWith sanitizer fallbackTitle raw author).1.title := by
  have htitle : (compileWith sanitizer fallbackTitle raw author).1.title =
      (splitTitle raw).1.getD fallbackTitle := rfl
  rw [htitle]
  cases hsplit : (splitTitle raw).1 with
  | none => exact hfallback
  | some title =>
    obtain ⟨line, hline, htitle⟩ := Option.bind_eq_some_iff.mp hsplit
    exact isTitle_of_titleOf? (no_break_of_mem_lines (mem_of_splitLines hline)) htitle

/-- A title over lines that are not empty is found again. -/
theorem splitTitle_joinLines {title : Text} (htitle : IsTitle title) {body : List Text}
    (hbreak : ∀ line ∈ body, ∀ c ∈ line, c ∉ ['\n', '\r']) (hne : ∀ line ∈ body, line ≠ []) :
    splitTitle (joinLines (title :: body)) = (some title, body) := by
  have hlines : ∀ line ∈ title :: body, ∀ c ∈ line, c ∉ ['\n', '\r'] :=
    List.forall_mem_cons.mpr ⟨htitle.no_break, hbreak⟩
  have hreturn : '\r' ∉ joinLines (title :: body) :=
    not_mem_joinLines (by decide) fun line hline hc ↦ hlines line hline '\r' hc (by decide)
  have hread : lines (joinLines (title :: body)) = title :: body :=
    lines_joinLines (fun line hline hc ↦ hlines line hline '\n' hc (by decide))
      (List.forall_mem_cons.mpr ⟨htitle.ne_nil, hne⟩)
  have hsplit : splitLines (title :: body) = (some title, body) := by
    rw [splitLines, htitle.trim_eq, if_neg htitle.ne_nil]
  unfold splitTitle
  rw [unifyLineEnds_eq_self hreturn, hread, hsplit]
  dsimp only
  rw [Option.bind_some, htitle.titleOf?_eq]

/-! ### Documents -/

theorem kind_eq_paragraph_of_keywordOf? {kind : BlockKind} (h : Tag.keywordOf? kind = none) :
    kind = .paragraph := by
  cases kind with
  | paragraph => rfl
  | heading | contextNote | analogyNote | challengeQuestion | warning => contradiction

theorem paragraph_has_no_keyword : ∀ entry ∈ Tag.keywords, entry.2 ≠ .paragraph := by decide

/-- The block of a clean line is written as a clean line that stands for it. -/
theorem written_of_classify {line : Text} {block : Block}
    (hline : Sanitizer.IsCleanLine default line) (h : Tag.classify line = some block) :
    Sanitizer.IsCleanLine default block.written ∧ Tag.classify block.written = some block := by
  have htrim : trim line = line := (trim_eq_self_iff line).mpr hline.trimmed
  obtain ⟨hne, htrimmed⟩ := Tag.text_of_classify h
  unfold Block.written
  cases hkeyword : Tag.keywordOf? block.kind with
  | none =>
    have hkind := kind_eq_paragraph_of_keywordOf? hkeyword
    obtain ⟨-, ⟨hword, -⟩ | ⟨-, rfl⟩⟩ := (Tag.classify_eq_some_iff line block).mp h
    · exact absurd hkind (paragraph_has_no_keyword _ ((Tag.mem_keywords_iff _ _).mpr hword))
    · dsimp only
      rw [htrim] at h ⊢
      exact ⟨hline, h⟩
  | some keyword =>
    have hmem := Tag.mem_keywords_of_keywordOf? hkeyword
    have hinfix := htrim ▸ Tag.text_infix_of_classify h
    exact ⟨Sanitizer.isCleanLine_written hmem hne htrimmed hinfix hline,
      Tag.classify_written hmem hne htrimmed⟩

theorem written_of_mem_compile {raw author : Text} {block : Block}
    (hblock : block ∈ (compile raw author).blocks) :
    Sanitizer.IsCleanLine default block.written ∧ Tag.classify block.written = some block := by
  have hblocks := blocks_compileWith default defaultTitle raw author
  rw [compile, hblocks] at hblock
  obtain ⟨line, hline, hclassify⟩ := List.mem_filterMap.mp hblock
  exact written_of_classify (isCleanLine_of_mem_cleaned hline) hclassify

theorem blockOf?_of_isCleanLine {sanitizer : Sanitizer} {line : Text}
    (h : sanitizer.IsCleanLine line) : blockOf? sanitizer line = Tag.classify line := by
  rw [blockOf?, Sanitizer.sanitizeLine, Sanitizer.stripped_eq_self h.isPlain, h.cleanLine_eq,
    Option.bind_some]

/-- A document that a compilation gives, written as tagged text, compiles to itself, and no line
of that text is dropped. -/
theorem compile_written_compile (raw author : Text) :
    let doc := compile raw author
    compile doc.written author = doc ∧
      (compileWith default defaultTitle doc.written author).2 =
        { bodyLines := doc.blocks.length, blocks := doc.blocks.length, droppedLines := 0
          usesDefaultTitle := false } := by
  intro doc
  have hwritten : ∀ block ∈ doc.blocks, Sanitizer.IsCleanLine default block.written ∧
      Tag.classify block.written = some block := fun _ ↦ written_of_mem_compile
  have hsplit : splitTitle doc.written = (some doc.title, doc.blocks.map Block.written) := by
    refine splitTitle_joinLines (isTitle_title isTitle_defaultTitle default raw author) ?_ ?_
    · exact List.forall_mem_map.mpr fun block hblock ↦ (hwritten block hblock).1.no_break
    · exact List.forall_mem_map.mpr fun block hblock ↦ (hwritten block hblock).1.ne_nil
  have hblocks : (doc.blocks.map Block.written).filterMap (blockOf? default) = doc.blocks := by
    rw [List.filterMap_map]
    calc doc.blocks.filterMap (blockOf? default ∘ Block.written)
        = doc.blocks.filterMap some := List.filterMap_congr fun block hblock ↦ by
          rw [Function.comp_apply, blockOf?_of_isCleanLine (hwritten block hblock).1,
            (hwritten block hblock).2]
      _ = doc.blocks := List.filterMap_some
  have hcompiled : compileWith default defaultTitle doc.written author =
      (doc, { bodyLines := doc.blocks.length, blocks := doc.blocks.length, droppedLines := 0
              usesDefaultTitle := false }) := by
    unfold compileWith
    rw [hsplit]
    dsimp only
    rw [hblocks, List.length_map, Nat.sub_self]
    rfl
  exact ⟨by rw [compile, hcompiled], by rw [hcompiled]⟩

end Compilation

end StudyGuide
