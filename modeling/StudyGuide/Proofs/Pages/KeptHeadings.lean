import StudyGuide.Proofs.Lengths.Subtraction
import StudyGuide.Proofs.Pages.LinePages

/-!
Headings and what they stand over. A heading asks for the room of its own lines and of one line
of body text under them, and what comes next then asks for its own room. The two agree for a
heading of one line and a text, although the heading adds up the room it asks for and the flow
takes the lines off one by one, rounding each time (`not_overflows_after_heading`). They do not
agree for a box or another heading, which ask for more than one line of body text: these may
go on to the next page and leave the heading behind (`Document.stranded_heading`).

Whatever comes next, the cursor under the heading tells whether it begins there
(`Document.keepsNext_iff`).
-/

set_option autoImplicit false
set_option relaxedAutoImplicit false

namespace StudyGuide

/-! ### Under one line of text -/

namespace Flow

variable {sheet : Sheet} {flow : Flow}

@[simp] theorem y_paintRule (rule : Option Border) : (paintRule sheet rule flow).y = flow.y := by
  unfold paintRule
  split <;> rfl

/-- After asking for room there is that much, unless a page does not have it. -/
theorem room_of_keep (hmarks : MarksTop sheet flow) {height : Length}
    (hpage : ¬sheet.setup.top - height < sheet.setup.bottom) :
    ¬(Flow.step sheet flow (.keep height)).y - height < sheet.setup.bottom := by
  unfold Flow.step
  dsimp only
  split_ifs with hfull
  · exact hpage
  · intro hlow
    have htop : flow.atTop = true := by simpa [hlow] using hfull
    rw [hmarks.y_eq htop] at hlow
    exact hpage hlow

theorem y_placeLine_of_fits {setting : Setting} {line : Line}
    (h : ¬lineEnd setting line flow.y < sheet.setup.bottom) :
    (placeLine sheet setting line flow).y = flow.y - line.height := by
  have hopen : (openText setting flow).y = flow.y := by cases setting <;> rfl
  rw [placeLine, turnPage_of_fits h]
  exact congrArg (· - line.height) hopen

/-- A text of one line that asks for room ends under that line, wherever the line is drawn. -/
theorem exists_y_run_ofText {setup : PageSetup} {block : TextBlock}
    (hlines : (Step.textLines setup block).length = 1) (hkeep : block.keepWithNext > 0)
    (hmarks : MarksTop sheet flow)
    (hpage : ¬sheet.setup.top - Step.textRoom setup block < sheet.setup.bottom)
    (hline : ∀ y, ¬y - Step.textRoom setup block < sheet.setup.bottom →
      ¬y - block.style.lineHeight < sheet.setup.bottom) :
    ∃ y, ¬y - Step.textRoom setup block < sheet.setup.bottom ∧
      (run sheet flow (Step.ofText setup block)).y =
        y - block.style.lineHeight - block.spaceAfter := by
  obtain ⟨line, hsingle⟩ := List.length_eq_one_iff.mp hlines
  have hheight : line.height = block.style.lineHeight := by
    have hstyle : line.style = block.style :=
      Line.style_of_mem_ofTexts (hsingle ▸ List.mem_singleton_self line)
    rw [Line.height, hstyle]
  have hsteps : Step.ofText setup block = [.keep (Step.textRoom setup block),
      .line (.text block.rule) line, .closeText block.rule, .gap block.spaceAfter] := by
    unfold Step.ofText Step.textRoom
    dsimp only
    rw [hsingle, if_pos hkeep]
    rfl
  let kept := Flow.step sheet flow (.keep (Step.textRoom setup block))
  have hroom : ¬kept.y - Step.textRoom setup block < sheet.setup.bottom := room_of_keep hmarks hpage
  have hplaced : (placeLine sheet (.text block.rule) line kept).y =
      kept.y - block.style.lineHeight := by
    rw [← hheight]
    refine y_placeLine_of_fits ?_
    rw [lineEnd, hheight]
    exact hline _ hroom
  refine ⟨kept.y, hroom, ?_⟩
  rw [hsteps, ← hplaced]
  exact congrArg (· - block.spaceAfter) (y_paintRule block.rule)

end Flow

/-! ### Headings of the standard theme -/

namespace Layout

/-- The text of a heading, under the gap that comes first. -/
def headingText (theme : Theme) (label : Text) : TextBlock where
  text := Text.uppercase label
  style := theme.headingStyle
  indent := 0
  rule := none
  spaceAfter := theme.headingSpaceAfter
  keepWithNext := theme.headingSpaceAfter + theme.bodyStyle.lineHeight

/-- The room that a heading of one line asks for. -/
def headingRoom : Length :=
  Theme.standard.headingStyle.lineHeight * Float32.ofNat 1 +
    (Theme.standard.headingSpaceAfter + Theme.standard.bodyStyle.lineHeight)

/-- The room that a heading of one line asks for has place for that line and, after the gap, for
a line of body text or of an analogy, wherever the cursor is. -/
theorem not_overflows_after_heading {y : Length}
    (h : ¬y - headingRoom < PageSetup.a4.bottom) :
    ¬y - Theme.standard.headingStyle.lineHeight < PageSetup.a4.bottom ∧
      ∀ style ∈ [Theme.standard.bodyStyle, Theme.standard.warningStyle,
          Theme.standard.analogyStyle],
        ¬y - Theme.standard.headingStyle.lineHeight - Theme.standard.headingSpaceAfter -
          style.lineHeight < PageSetup.a4.bottom := by
  have hbottom : Length.IsKeptIn PageSetup.a4.bottom 0xB40000 (-18) := ⟨_, rfl⟩
  have hroom : headingRoom.isFinite = true := by decide
  -- The least cursor with that room, and the one before it.
  have hadjacent : Length.Adjacent (Float32.ofBits 0x42B56666) (Float32.ofBits 0x42B56667) :=
    ⟨_, _, by decide, ⟨_, rfl⟩, _, rfl⟩
  have hbelow : Float32.ofBits 0x42B56666 - headingRoom < PageSetup.a4.bottom := by decide
  have hfits (parts : List Length) (hparts : ∀ part ∈ parts, part.isFinite = true)
      (hleast : ¬parts.foldl (· - ·) (Float32.ofBits 0x42B56667) < PageSetup.a4.bottom) :
      ¬parts.foldl (· - ·) y < PageSetup.a4.bottom :=
    Length.fits_of_reserve hparts hbottom hroom hadjacent hbelow hleast h
  refine ⟨hfits [Theme.standard.headingStyle.lineHeight] (by decide) (by decide), ?_⟩
  have hunder (height : Length) := hfits
    [Theme.standard.headingStyle.lineHeight, Theme.standard.headingSpaceAfter, height]
  simp only [List.forall_mem_cons]
  exact ⟨hunder _ (by decide) (by decide), hunder _ (by decide) (by decide),
    hunder _ (by decide) (by decide), nofun⟩

end Layout

/-! ### Documents -/

namespace Document

/-- The last line of a block and the first line of the one after it are on one page. -/
def KeepsNext (theme : Theme) (doc : Document) (count : Nat) : Prop :=
  ∃ page, (doc.linePages theme)[count]?.bind List.getLast? = some page ∧
    (doc.linePages theme)[count + 1]?.bind List.head? = some page

variable {doc : Document} {count : Nat} {label : Text} {next : Block}

section

variable (theme : Theme) (hheading : doc.blocks[count]? = some ⟨.heading, label⟩)
include hheading

/-- A heading is drawn from under its gap. -/
theorem exists_flow_under_gap :
    let sheet := Sheet.ofLayout (Layout.ofDocument theme doc)
    let steps := Step.ofText theme.page (Layout.headingText theme label)
    ∃ flow, Flow.MarksTop sheet flow ∧ (∃ footer, sheet.footer = [footer] ∧ flow.Footed footer) ∧
      (doc.linePages theme)[count]? = some (Flow.linePages sheet flow steps) ∧
      doc.flowAfter theme (count + 1) = Flow.run sheet flow steps := by
  intro sheet steps
  obtain ⟨footer, hfooter, hfooted, hmarks⟩ := exists_footed_flowAfter theme doc count
  have hsteps : Step.ofBlock theme ⟨.heading, label⟩ =
      .space theme.headingSpaceBefore :: (steps ++ []) := rfl
  rw [List.append_nil] at hsteps
  refine ⟨Flow.step sheet (doc.flowAfter theme count) (.space theme.headingSpaceBefore),
    Flow.marksTop_space hmarks _,
    ⟨footer, hfooter, Flow.footed_run hfooter hfooted [.space theme.headingSpaceBefore]⟩, ?_, ?_⟩
  · rw [getElem?_linePages theme hheading, hsteps]
    rfl
  · rw [flowAfter_succ theme hheading, hsteps]
    rfl

/-- What comes after a heading begins on the page of the heading exactly where it fits there. -/
theorem keepsNext_iff (hnext : doc.blocks[count + 1]? = some next) :
    doc.KeepsNext theme count ↔
      BeginsAt theme.page (doc.flowAfter theme (count + 1)).y (Layout.ofBlock theme next) := by
  obtain ⟨flow, -, ⟨footer, hfooter, hfooted⟩, hpages, hafter⟩ :=
    exists_flow_under_gap theme hheading
  have hoccupied := Flow.occupied_ofText hfooter hfooted theme.page (Layout.headingText theme label)
  rw [← hafter] at hoccupied
  let sheet := Sheet.ofLayout (Layout.ofDocument theme doc)
  have hlast : (Flow.linePages sheet flow (Step.ofText theme.page
      (Layout.headingText theme label))).getLast? =
        some (doc.flowAfter theme (count + 1)).finished.length :=
    hafter ▸ Flow.getLast?_linePages_ofText theme.page (Layout.headingText theme label)
  have hfirst : (Flow.linePages sheet (doc.flowAfter theme (count + 1))
      (Step.ofBlock theme next)).head? = some (doc.flowAfter theme (count + 1)).finished.length ↔
        BeginsAt theme.page (doc.flowAfter theme (count + 1)).y (Layout.ofBlock theme next) :=
    Flow.head?_linePages_iff hoccupied.atTop_eq _
  rw [KeepsNext, hpages, getElem?_linePages theme hnext, Option.bind_some, Option.bind_some, hlast]
  simp only [Option.some_inj, exists_eq_left']
  exact hfirst

end

/-- A heading of one line in the standard theme keeps every text that follows. -/
theorem keepsNext_of_text (hheading : doc.blocks[count]? = some ⟨.heading, label⟩)
    (hnext : doc.blocks[count + 1]? = some next)
    (hlines : (Step.textLines .a4 (Layout.headingText .standard label)).length = 1)
    (hkind : next.kind ∈ [.paragraph, .warning, .analogyNote]) :
    doc.KeepsNext .standard count := by
  obtain ⟨flow, hmarks, -, -, hafter⟩ := exists_flow_under_gap .standard hheading
  have hroom : Step.textRoom .a4 (Layout.headingText .standard label) = Layout.headingRoom := by
    rw [Step.textRoom, hlines]
    rfl
  have hpage : ¬PageSetup.a4.top - Layout.headingRoom < PageSetup.a4.bottom := by decide
  have hkeep : Theme.standard.headingSpaceAfter + Theme.standard.bodyStyle.lineHeight > 0 := by
    decide
  obtain ⟨y, hy, hcursor⟩ := Flow.exists_y_run_ofText hlines hkeep hmarks (hroom ▸ hpage)
    (hroom ▸ fun y h ↦ (Layout.not_overflows_after_heading h).1)
  rw [hroom] at hy
  have hunder := (Layout.not_overflows_after_heading hy).2
  rw [keepsNext_iff .standard hheading hnext, hafter]
  have hbegins (block : TextBlock) (hfree : block.keepWithNext = 0)
      (hstyle : block.style ∈ [Theme.standard.bodyStyle, Theme.standard.warningStyle,
        Theme.standard.analogyStyle]) :
      BeginsAt .a4 (Flow.run (Sheet.ofLayout (Layout.ofDocument .standard doc)) flow
        (Step.ofText .a4 (Layout.headingText .standard label))).y [.text block] := by
    refine ⟨fun hpositive ↦ absurd (hfree ▸ hpositive) (by decide), ?_⟩
    rw [hcursor]
    exact hunder _ hstyle
  obtain ⟨kind, text⟩ := next
  cases kind with
  | paragraph => exact hbegins _ rfl (by simp)
  | warning => exact hbegins _ rfl (by simp)
  | analogyNote => exact hbegins _ rfl (by simp)
  | heading | contextNote | challengeQuestion => simp at hkind

/-- What follows a heading of the standard theme begins on the page of the heading exactly where
its own test lets it begin under the heading's cursor. Texts under a heading of one line always
pass that test. -/
theorem heading_keepsNext (hheading : doc.blocks[count]? = some ⟨.heading, label⟩)
    (hnext : doc.blocks[count + 1]? = some next) :
    (doc.KeepsNext .standard count ↔
      BeginsAt .a4 (doc.flowAfter .standard (count + 1)).y (Layout.ofBlock .standard next)) ∧
    ((Step.textLines .a4 (Layout.headingText .standard label)).length = 1 →
      next.kind ∈ [.paragraph, .warning, .analogyNote] → doc.KeepsNext .standard count) :=
  ⟨keepsNext_iff .standard hheading hnext, keepsNext_of_text hheading hnext⟩

/-- A heading that a text follows. -/
def headed : Document where
  title := ['T']
  author := []
  blocks := [⟨.heading, ['L', 'u', 'z']⟩, ⟨.paragraph, ['x']⟩]

theorem headed_keepsNext :
    headed.blocks[0]? = some ⟨.heading, ['L', 'u', 'z']⟩ ∧
    headed.blocks[1]? = some ⟨.paragraph, ['x']⟩ ∧ headed.KeepsNext .standard 0 := by
  have hheading : headed.blocks[0]? = some ⟨.heading, ['L', 'u', 'z']⟩ := rfl
  have hnext : headed.blocks[0 + 1]? = some ⟨.paragraph, ['x']⟩ := rfl
  exact ⟨hheading, hnext, (heading_keepsNext hheading hnext).2 (by decide) (by decide)⟩

/-- Twenty short texts, a heading and a box, which begins on the next page. -/
def stranding : Document where
  title := ['T']
  author := []
  blocks := List.replicate 20 ⟨.paragraph, ['x']⟩ ++
    [⟨.heading, ['L', 'u', 'z']⟩, ⟨.contextNote, ['U', 'n', 'o']⟩]

set_option maxRecDepth 10000 in
/-- A box asks for more room than the heading has kept. -/
theorem stranded_heading :
    stranding.blocks[20]? = some ⟨.heading, ['L', 'u', 'z']⟩ ∧
    stranding.blocks[21]? = some ⟨.contextNote, ['U', 'n', 'o']⟩ ∧
    (stranding.linePages .standard)[20]? = some [0] ∧
    (stranding.linePages .standard)[21]? = some [1, 1] ∧ ¬stranding.KeepsNext .standard 20 := by
  have hpages : (stranding.linePages .standard)[20]? = some [0] ∧
      (stranding.linePages .standard)[21]? = some [1, 1] := by decide +kernel
  refine ⟨rfl, rfl, hpages.1, hpages.2, fun hkept ↦ ?_⟩
  obtain ⟨page, hlast, hfirst⟩ := hkept
  rw [hpages.1] at hlast
  rw [hpages.2] at hfirst
  exact Nat.zero_ne_one (Option.some_inj.mp (hlast.trans hfirst.symm))

end Document

end StudyGuide
