import StudyGuide.Proofs.Lengths.Multiples
import StudyGuide.Proofs.Pages.KeptHeadings

/-!
Captions and what they stand over. A box asks once for the room of its caption, one line of its
body and the padding on both sides, added up; then its lines are taken off the cursor one by one,
each with the padding that would have to follow. The two round differently, but they agree for the
boxes of the standard theme wherever the cursor is (`Layout.not_overflows_in_box`). What a box
asks for as a line of body text is the smaller of one line and all of them, which is one line,
since no multiple of it is smaller.

So neither the caption nor the first line of the body turns the page, whatever was laid out
before, and both are drawn on the page on which the box begins, next to each other
(`Document.caption_keepsBody`).
-/

set_option autoImplicit false
set_option relaxedAutoImplicit false

namespace StudyGuide

/-! ### Boxes that fit -/

namespace Flow

variable {sheet : Sheet} {flow : Flow}

theorem placeLine_of_fits {look : BoxLook} {line : Line}
    (h : ¬flow.y - line.height - look.padding < sheet.setup.bottom) :
    placeLine sheet (.box look) line flow = draw line flow := by
  have hfits : ¬lineEnd (.box look) line flow.y < sheet.setup.bottom := h
  rw [placeLine, turnPage_of_fits hfits, openText]

/-- Two lines that fit one after the other, with a gap between them, are drawn on one page. -/
theorem placeLines_of_fits {look : BoxLook} {caption first : Line}
    (hcaption : ¬flow.y - caption.height - look.padding < sheet.setup.bottom)
    (hfirst : ¬flow.y - caption.height - Step.captionGap - first.height - look.padding <
      sheet.setup.bottom) (rest : List Step) :
    let drawn := draw first ((draw caption flow).moveDown Step.captionGap)
    let steps := [.line (.box look) caption, .gap Step.captionGap, .line (.box look) first]
    run sheet flow steps = drawn ∧
      linePages sheet flow (steps ++ rest) =
        flow.finished.length :: flow.finished.length :: linePages sheet drawn rest := by
  intro drawn steps
  have hdrawn : placeLine sheet (.box look) caption flow = draw caption flow :=
    placeLine_of_fits hcaption
  have hunder : placeLine sheet (.box look) first
      ((draw caption flow).moveDown Step.captionGap) = drawn := placeLine_of_fits hfirst
  have hpages : linePages sheet flow (steps ++ rest) =
      (placeLine sheet (.box look) caption flow).finished.length ::
        (placeLine sheet (.box look) first ((placeLine sheet (.box look) caption flow).moveDown
          Step.captionGap)).finished.length ::
        linePages sheet (placeLine sheet (.box look) first
          ((placeLine sheet (.box look) caption flow).moveDown Step.captionGap)) rest := rfl
  refine ⟨?_, ?_⟩
  · rw [← hunder, ← hdrawn]
    rfl
  · rw [hpages, hdrawn, hunder]
    rfl

end Flow

/-! ### Boxes of the standard theme -/

namespace Layout

/-- The room that a box of the standard theme asks for. -/
def boxRoom : Length :=
  Theme.standard.boxPadding + Theme.standard.contextCaptionStyle.lineHeight * Float32.ofNat 1 +
    Step.captionGap + Theme.standard.contextBodyStyle.lineHeight + Theme.standard.boxPadding

theorem boxRoom_fits_page : ¬PageSetup.a4.top - boxRoom < PageSetup.a4.bottom := by
  decide +kernel

/-- The sizes that both boxes of the standard theme have. -/
structure IsStandardBox (note : Callout) : Prop where
  padding : note.padding = Theme.standard.boxPadding
  captionHeight : note.captionStyle.lineHeight = Theme.standard.contextCaptionStyle.lineHeight
  bodyHeight : note.bodyStyle.lineHeight = Theme.standard.contextBodyStyle.lineHeight
  captionLines : (Step.captionLines .a4 note).length = 1

theorem length_captionLines_standard :
    ∀ caption ∈ [(Theme.standard.contextCaptionStyle, Theme.standard.contextCaption),
        (Theme.standard.challengeCaptionStyle, Theme.standard.challengeCaption)],
      (Line.wrapped caption.1 (PageSetup.a4.margin + Theme.standard.boxPadding)
        (PageSetup.a4.contentWidth - 2 * Theme.standard.boxPadding) false
        caption.2).length = 1 := by
  simp only [List.forall_mem_cons]
  exact ⟨by decide +kernel, by decide +kernel, nofun⟩

/-- A note or a question is one box, with a caption of one line. -/
theorem exists_isStandardBox {block : Block}
    (hkind : block.kind ∈ [.contextNote, .challengeQuestion]) :
    ∃ note, ofBlock .standard block = [.callout note] ∧ note.body = block.text ∧
      IsStandardBox note := by
  obtain ⟨kind, text⟩ := block
  rcases List.mem_pair.mp hkind with rfl | rfl
  · exact ⟨_, rfl, rfl, rfl, rfl, rfl, length_captionLines_standard _ List.mem_cons_self⟩
  · exact ⟨_, rfl, rfl, rfl, rfl, rfl, length_captionLines_standard _
      (List.mem_cons_of_mem _ List.mem_cons_self)⟩

theorem IsStandardBox.calloutHead_eq {note : Callout} (h : IsStandardBox note) :
    Step.calloutHead .a4 note = boxRoom := by
  obtain ⟨first, more, hlines⟩ : ∃ first more, Step.bodyLines .a4 note = first :: more :=
    Line.exists_wrapped_eq_cons ..
  have hheight : Length.IsKeptIn Theme.standard.contextBodyStyle.lineHeight 0xD00000 (-20) :=
    ⟨_, rfl⟩
  have hline : Length.smaller Theme.standard.contextBodyStyle.lineHeight
      (Theme.standard.contextBodyStyle.lineHeight *
        Float32.ofNat (Step.bodyLines .a4 note).length) =
      Theme.standard.contextBodyStyle.lineHeight := by
    have hnot := Length.not_mul_ofNat_lt hheight (by decide) (by decide)
      (hlines ▸ Nat.succ_pos more.length : 0 < (Step.bodyLines .a4 note).length)
    rw [Length.smaller, if_neg hnot, if_pos (by decide)]
  unfold Step.calloutHead
  dsimp only
  rw [h.padding, h.captionHeight, h.bodyHeight, h.captionLines, hline, boxRoom]

/-- The room that a box asks for has place for its caption and, after the gap, for a line of its
body, each with the padding under it, wherever the cursor is. -/
theorem not_overflows_in_box {y : Length} (h : ¬y - boxRoom < PageSetup.a4.bottom) :
    let padding := Theme.standard.boxPadding
    let underCaption := y - padding - Theme.standard.contextCaptionStyle.lineHeight
    ¬underCaption - padding < PageSetup.a4.bottom ∧
      ¬underCaption - Step.captionGap - Theme.standard.contextBodyStyle.lineHeight - padding <
        PageSetup.a4.bottom := by
  intro padding underCaption
  have hbottom : Length.IsKeptIn PageSetup.a4.bottom 0xB40000 (-18) := ⟨_, rfl⟩
  have hroom : boxRoom.isFinite = true := by decide
  -- The least cursor with that room, and the one before it.
  have hadjacent : Length.Adjacent (Float32.ofBits 0x42BECCCC) (Float32.ofBits 0x42BECCCD) :=
    ⟨_, _, by decide, ⟨_, rfl⟩, _, rfl⟩
  have hbelow : Float32.ofBits 0x42BECCCC - boxRoom < PageSetup.a4.bottom := by decide
  have hfits (parts : List Length) (hparts : ∀ part ∈ parts, part.isFinite = true)
      (hleast : ¬parts.foldl (· - ·) (Float32.ofBits 0x42BECCCD) < PageSetup.a4.bottom) :
      ¬parts.foldl (· - ·) y < PageSetup.a4.bottom :=
    Length.fits_of_reserve hparts hbottom hroom hadjacent hbelow hleast h
  exact ⟨hfits [padding, Theme.standard.contextCaptionStyle.lineHeight, padding] (by decide)
      (by decide),
    hfits [padding, Theme.standard.contextCaptionStyle.lineHeight, Step.captionGap,
      Theme.standard.contextBodyStyle.lineHeight, padding] (by decide) (by decide)⟩

theorem IsStandardBox.not_overflows {note : Callout} (h : IsStandardBox note) {y : Length}
    (hy : ¬y - Step.calloutHead .a4 note < PageSetup.a4.bottom) :
    ¬y - note.padding - note.captionStyle.lineHeight - note.padding < PageSetup.a4.bottom ∧
      ¬y - note.padding - note.captionStyle.lineHeight - Step.captionGap -
          note.bodyStyle.lineHeight - note.padding < PageSetup.a4.bottom := by
  rw [h.calloutHead_eq] at hy
  rw [h.padding, h.captionHeight, h.bodyHeight]
  exact not_overflows_in_box hy

/-- A box of the standard theme has the room that it asks for where it begins. -/
theorem IsStandardBox.hasRoom {note : Callout} (h : IsStandardBox note) {sheet : Sheet}
    (hsetup : sheet.setup = .a4) {flow : Flow} (hmarks : Flow.MarksTop sheet flow) :
    ¬(Flow.step sheet (Flow.step sheet flow (.space note.spaceBefore))
        (.keep (Step.calloutHead .a4 note))).y - Step.calloutHead .a4 note <
      PageSetup.a4.bottom := by
  have hpage : ¬sheet.setup.top - Step.calloutHead .a4 note < sheet.setup.bottom := by
    rw [hsetup, h.calloutHead_eq]
    exact boxRoom_fits_page
  have hroom := Flow.room_of_keep (Flow.marksTop_space hmarks note.spaceBefore) hpage
  rwa [hsetup] at hroom

/-- A box of the standard theme draws its caption and the first line of its body on one page. -/
theorem IsStandardBox.exists_drawn {note : Callout} (h : IsStandardBox note)
    {caption first : Line} {more : List Line} (hcaption : Step.captionLines .a4 note = [caption])
    (hbody : Step.bodyLines .a4 note = first :: more) {sheet : Sheet} (hsetup : sheet.setup = .a4)
    {flow : Flow} (hmarks : Flow.MarksTop sheet flow) :
    ∃ before after y, Step.ofCallout .a4 note = before ++ after ∧
      let drawn := Flow.run sheet flow before
      Flow.linePages sheet flow (Step.ofCallout .a4 note) =
        drawn.finished.length :: drawn.finished.length :: Flow.linePages sheet drawn after ∧
      caption.runs y ++ first.runs (y - caption.height - Step.captionGap) <:+ drawn.page.runs := by
  have hcaptionHeight : caption.height = note.captionStyle.lineHeight := by
    rw [Line.height, Line.style_of_mem_ofTexts (hcaption ▸ List.mem_cons_self)]
  have hfirstHeight : first.height = note.bodyStyle.lineHeight := by
    rw [Line.height, Line.style_of_mem_ofTexts (hbody ▸ List.mem_cons_self)]
  let look := Step.lookOf note
  let entry : List Step :=
    [.space note.spaceBefore, .keep (Step.calloutHead .a4 note), .openBox look]
  let head : List Step :=
    [.line (.box look) caption, .gap Step.captionGap, .line (.box look) first]
  let rest : List Step := more.map (.line (.box look)) ++ [.closeBox look, .gap note.spaceAfter]
  have hsteps : Step.ofCallout .a4 note = entry ++ (head ++ rest) := by
    unfold Step.ofCallout
    dsimp only
    rw [hcaption, hbody]
    rfl
  have hroom := h.hasRoom hsetup hmarks
  obtain ⟨kept, hkept⟩ : ∃ kept, Flow.step sheet (Flow.step sheet flow (.space note.spaceBefore))
      (.keep (Step.calloutHead .a4 note)) = kept := ⟨_, rfl⟩
  rw [hkept] at hroom
  obtain ⟨hfits, hunder⟩ := h.not_overflows hroom
  have hopened : (Flow.openBox look kept).y = kept.y - note.padding := rfl
  have hlook : look.padding = note.padding := rfl
  rw [← hcaptionHeight, ← hsetup, ← hopened, ← hlook] at hfits
  rw [← hcaptionHeight, ← hfirstHeight, ← hsetup, ← hopened, ← hlook] at hunder
  obtain ⟨hrun, hpages⟩ := Flow.placeLines_of_fits hfits hunder rest
  have hentry : Flow.run sheet flow entry = Flow.openBox look kept := hkept ▸ rfl
  have hdrawn := Flow.run_append sheet flow entry head
  rw [hentry, hrun] at hdrawn
  refine ⟨entry ++ head, rest, kept.y - note.padding, ?_, ?_, ?_⟩
  · rw [hsteps, List.append_assoc]
  · have hnone : Flow.linePages sheet flow entry = [] := rfl
    rw [hdrawn, hsteps, Flow.linePages_append, hnone, List.nil_append, hentry]
    exact hpages
  · rw [hdrawn]
    exact ⟨kept.page.runs, (List.append_assoc ..).symm⟩

end Layout

/-! ### Documents -/

namespace Document

/-- In a document of the standard theme a note or a question has its caption, which is one line,
and the first line of its body on one page, with nothing drawn between the two. -/
theorem caption_keepsBody {doc : Document} {count : Nat} {block : Block}
    (hblock : doc.blocks[count]? = some block)
    (hkind : block.kind ∈ [.contextNote, .challengeQuestion]) :
    ∃ note caption first more, Layout.ofBlock .standard block = [.callout note] ∧
      Step.captionLines .a4 note = [caption] ∧ Step.bodyLines .a4 note = first :: more ∧
      ∃ page pages, (doc.linePages .standard)[count]? = some (page :: page :: pages) ∧
        ∃ drawn y, (Layout.ofDocument .standard doc).pages[page]? = some drawn ∧
          caption.runs y ++ first.runs (y - caption.height - Step.captionGap) <:+: drawn.runs := by
  obtain ⟨note, hnote, -, hsizes⟩ := Layout.exists_isStandardBox hkind
  let sheet := Sheet.ofLayout (Layout.ofDocument .standard doc)
  obtain ⟨-, -, -, hmarks⟩ := exists_footed_flowAfter .standard doc count
  obtain ⟨caption, hcaption⟩ := List.length_eq_one_iff.mp hsizes.captionLines
  obtain ⟨first, more, hbody⟩ : ∃ first more, Step.bodyLines .a4 note = first :: more :=
    Line.exists_wrapped_eq_cons ..
  have hsetup : sheet.setup = .a4 := rfl
  obtain ⟨before, after, y, hsplit, hpages, hruns⟩ :=
    hsizes.exists_drawn hcaption hbody hsetup hmarks
  let drawn := Flow.run sheet (doc.flowAfter .standard count) before
  have hsteps : Step.ofBlock .standard block = Step.ofCallout .a4 note := by
    rw [Step.ofBlock, hnote]
    exact List.append_nil _
  refine ⟨note, caption, first, more, hnote, hcaption, hbody, drawn.finished.length,
    Flow.linePages sheet drawn after, ?_, ?_⟩
  · rw [getElem?_linePages .standard hblock, hsteps, hpages]
  · have hafter : doc.flowAfter .standard (count + 1) = Flow.run sheet drawn after := by
      rw [flowAfter_succ .standard hblock, hsteps, hsplit, Flow.run_append]
    have hkeeps : Flow.Keeps drawn (Layout.ofDocument .standard doc).flow := by
      have hlater := keeps_flowAfter .standard hblock
      rw [hafter] at hlater
      exact (Flow.keeps_run sheet drawn after).trans hlater
    obtain ⟨later, hlater, hgrown⟩ :=
      Flow.Grows.of_keeps hkeeps _ _ List.getElem?_concat_length
    exact ⟨later, y, hlater, hruns.isInfix.trans hgrown.isInfix⟩

/-- The box that has left its heading behind has its caption and its body on one page. -/
theorem stranding_caption_keepsBody :
    stranding.blocks[21]? = some ⟨.contextNote, ['U', 'n', 'o']⟩ ∧
    BlockKind.contextNote ∈ [BlockKind.contextNote, .challengeQuestion] ∧
    ∃ page pages, (stranding.linePages .standard)[21]? = some (page :: page :: pages) := by
  have hblock : stranding.blocks[21]? = some ⟨.contextNote, ['U', 'n', 'o']⟩ := rfl
  have hkind : BlockKind.contextNote ∈ [BlockKind.contextNote, .challengeQuestion] := by decide
  obtain ⟨-, -, -, -, -, -, -, page, pages, hpages, -⟩ := caption_keepsBody hblock hkind
  exact ⟨hblock, hkind, page, pages, hpages⟩

end Document

end StudyGuide
