import Mathlib.Data.List.Forall2
import StudyGuide.Proofs.Pages.BottomMargin

/-!
The pages that lines go to. A run draws the lines of its steps on the page that is last when each
is drawn, and pages are never left out of order: a step ends on the page it begins on or on the
next one. The pages of a document's lines come block by block (`Document.linePages`), and put
together they are those of the whole flow of its layout (`Document.flatten_linePages`). A line is
found on its page when all is drawn, since pages keep what stands on them
(`Flow.linePages_forall₂`).

Where the first line of an element goes is told by the cursor before the element alone, once
something stands on the page: it goes to that page or to the next one
(`Flow.head?_linePages_iff`).
-/

set_option autoImplicit false
set_option relaxedAutoImplicit false

namespace StudyGuide

namespace Step

/-- What a block of a document makes the flow do. -/
def ofBlock (theme : Theme) (block : Block) : List Step :=
  (Layout.ofBlock theme block).flatMap (ofElement theme.page)

end Step

namespace Flow

/-- For each line that the steps draw, the number of pages before its own. -/
def linePages (sheet : Sheet) (flow : Flow) : List Step → List Nat
  | [] => []
  | step :: rest =>
    let after := Flow.step sheet flow step
    match step.line? with
    | none => linePages sheet after rest
    | some _ => after.finished.length :: linePages sheet after rest

/-- The pages of the lines of each block of steps. -/
def blockPages (sheet : Sheet) (flow : Flow) : List (List Step) → List (List Nat)
  | [] => []
  | steps :: rest => linePages sheet flow steps :: blockPages sheet (run sheet flow steps) rest

variable {sheet : Sheet} {flow : Flow}

theorem linePages_append (first second : List Step) :
    linePages sheet flow (first ++ second) =
      linePages sheet flow first ++ linePages sheet (run sheet flow first) second := by
  induction first generalizing flow with
  | nil => rfl
  | cons step rest ih =>
    rw [List.cons_append, linePages, linePages, ih]
    cases step.line? <;> rfl

theorem blockPages_append (first second : List (List Step)) :
    blockPages sheet flow (first ++ second) =
      blockPages sheet flow first ++ blockPages sheet (run sheet flow first.flatten) second := by
  induction first generalizing flow with
  | nil => rfl
  | cons steps rest ih =>
    rw [List.cons_append, blockPages, ih, blockPages, List.flatten_cons, run_append,
      List.cons_append]

theorem length_blockPages (blocks : List (List Step)) :
    (blockPages sheet flow blocks).length = blocks.length := by
  induction blocks generalizing flow with
  | nil => rfl
  | cons steps rest ih => rw [blockPages, List.length_cons, ih, List.length_cons]

theorem flatten_blockPages (blocks : List (List Step)) :
    (blockPages sheet flow blocks).flatten = linePages sheet flow blocks.flatten := by
  induction blocks generalizing flow with
  | nil => rfl
  | cons steps rest ih =>
    rw [blockPages, List.flatten_cons, ih, List.flatten_cons, linePages_append]

theorem linePages_cons_of_line (setting : Setting) (line : Line) (rest : List Step) :
    linePages sheet flow (.line setting line :: rest) =
      (placeLine sheet setting line flow).finished.length ::
        linePages sheet (placeLine sheet setting line flow) rest :=
  rfl

/-! ### Lines stay where they are drawn -/

/-- Every page keeps its place and the text that stands on it. -/
def Grows (before after : Flow) : Prop :=
  ∀ (index : Nat) (page : Page), before.pages[index]? = some page →
    ∃ later : Page, after.pages[index]? = some later ∧ page.runs <+: later.runs

/-- Only the last page is written on. -/
theorem Grows.of_keeps {before after : Flow} (h : Keeps before after) : Grows before after := by
  obtain ⟨grown, more, hafter, hgrown⟩ := h
  intro index page hpage
  rw [hafter]
  unfold pages at hpage
  rcases Nat.lt_or_ge index before.finished.length with hlt | hge
  · rw [List.getElem?_append_left hlt] at hpage ⊢
    exact ⟨page, hpage, List.prefix_refl _⟩
  · rw [List.getElem?_append_right hge, List.getElem?_singleton] at hpage
    split_ifs at hpage with hlast
    obtain rfl := Option.some_inj.mp hpage
    rw [List.getElem?_append_right hge, hlast]
    exact ⟨grown, rfl, hgrown.runs⟩

theorem Grows.length_finished_le {before after : Flow} (h : Grows before after) :
    before.finished.length ≤ after.finished.length := by
  obtain ⟨later, hlater, -⟩ := h _ before.page List.getElem?_concat_length
  have hlength := (List.getElem?_eq_some_iff.mp hlater).1
  rw [pages, List.length_append, List.length_singleton] at hlength
  exact Nat.le_of_lt_succ hlength

/-- A line stands on the last page when it is drawn. -/
theorem exists_page_placeLine (sheet : Sheet) (flow : Flow) (setting : Setting) (line : Line) :
    ∃ y, line.runs y <:+ (placeLine sheet setting line flow).page.runs :=
  ⟨_, List.suffix_append _ _⟩

/-- The number that `linePages` gives for a line is that of the page it is found on in the end. -/
theorem linePages_forall₂ (steps : List Step) :
    List.Forall₂ (fun line page ↦ ∃ drawn y, (run sheet flow steps).pages[page]? = some drawn ∧
      line.runs y <:+: drawn.runs) (steps.filterMap Step.line?) (linePages sheet flow steps) := by
  induction steps generalizing flow with
  | nil => exact .nil
  | cons step rest ih =>
    cases step with
    | line setting line =>
      refine .cons ?_ ih
      let placed := placeLine sheet setting line flow
      obtain ⟨y, hline⟩ := exists_page_placeLine sheet flow setting line
      have hlast : placed.pages[placed.finished.length]? = some placed.page :=
        List.getElem?_concat_length
      obtain ⟨drawn, hdrawn, hprefix⟩ := Grows.of_keeps (keeps_run sheet placed rest) _ _ hlast
      exact ⟨drawn, y, hdrawn, hline.isInfix.trans hprefix.isInfix⟩
    | gap | space | keep | headerRule | openBox | closeBox | closeText => exact ih

/-! ### Turning the page -/

@[simp] theorem finished_paintRule (rule : Option Border) :
    (paintRule sheet rule flow).finished = flow.finished := by
  unfold paintRule
  split <;> rfl

@[simp] theorem finished_paintBox (look : BoxLook) (bottom : Length) :
    (paintBox sheet look bottom flow).finished = flow.finished := by
  unfold paintBox
  split <;> rfl

theorem length_finished_newPage :
    (newPage sheet flow).finished.length = flow.finished.length + 1 := by
  simp [newPage]

theorem finished_openText (setting : Setting) :
    (openText setting flow).finished = flow.finished := by
  cases setting <;> rfl

/-- Something stands on the page, and so a line that does not fit goes to the next one. -/
theorem length_finished_placeLine (h : flow.atTop = false) (setting : Setting) (line : Line) :
    (placeLine sheet setting line flow).finished.length =
      if lineEnd setting line flow.y < sheet.setup.bottom then flow.finished.length + 1
      else flow.finished.length := by
  have hplaced : (placeLine sheet setting line flow).finished =
      (turnPage sheet setting line flow).finished := finished_openText setting
  rw [hplaced]
  unfold turnPage
  by_cases hover : lineEnd setting line flow.y < sheet.setup.bottom
  · rw [if_pos hover, if_neg (by simpa [overflows] using hover)]
    cases setting with
    | header => exact length_finished_newPage
    | text rule =>
      dsimp only
      rw [h, if_neg Bool.false_ne_true, length_finished_newPage, finished_paintRule]
    | box look =>
      have hopen (flow : Flow) : (openBox look flow).finished = flow.finished := rfl
      dsimp only
      rw [hopen, length_finished_newPage, finished_paintBox]
  · rw [if_neg hover, if_pos (by simpa [overflows] using hover)]

/-- No line goes to an earlier page. -/
theorem length_finished_le_placeLine (setting : Setting) (line : Line) :
    flow.finished.length ≤ (placeLine sheet setting line flow).finished.length :=
  (Grows.of_keeps (keeps_step sheet flow (.line setting line))).length_finished_le

end Flow

/-! ### First lines -/

namespace Line

theorem style_of_mem_ofTexts {style : TextStyle} {x width : Length} {stretch : Bool}
    {texts : List Text} {line : Line} (h : line ∈ ofTexts style x width stretch texts) :
    line.style = style := by
  induction texts with
  | nil => contradiction
  | cons text rest ih =>
    cases rest with
    | nil =>
      obtain rfl := List.mem_singleton.mp h
      rfl
    | cons next more =>
      rcases List.mem_cons.mp h with rfl | hmem
      · rfl
      · exact ih hmem

/-- A text has a first line, and it is as high as all lines of its style. -/
theorem exists_wrapped_eq_cons_of_height (style : TextStyle) (x width : Length) (stretch : Bool)
    (text : Text) :
    ∃ first rest, wrapped style x width stretch text = first :: rest ∧
      first.height = style.lineHeight := by
  obtain ⟨first, rest, hlines⟩ := exists_wrapped_eq_cons style x width stretch text
  have hstyle : first.style = style := style_of_mem_ofTexts (hlines ▸ List.mem_cons_self)
  exact ⟨first, rest, hlines, by rw [height, hstyle]⟩

end Line

namespace Step

/-- The room that a text asks for: all its lines and what has to follow. -/
def textRoom (setup : PageSetup) (block : TextBlock) : Length :=
  block.style.lineHeight * Float32.ofNat (textLines setup block).length + block.keepWithNext

/-- The step by which a text that asks for what follows it finds its room. -/
def roomSteps (setup : PageSetup) (block : TextBlock) : List Step :=
  if block.keepWithNext > 0 then [.keep (textRoom setup block)] else []

theorem ofText_eq (setup : PageSetup) (block : TextBlock) :
    ofText setup block = roomSteps setup block ++
      (((textLines setup block).map (.line (.text block.rule)) ++ [.closeText block.rule]) ++
        [.gap block.spaceAfter]) := by
  simp [ofText, roomSteps, textRoom]

theorem exists_ofText_eq (setup : PageSetup) (block : TextBlock) :
    ∃ first after, first.height = block.style.lineHeight ∧ (∀ step ∈ after, ¬step.IsKeep) ∧
      ofText setup block = roomSteps setup block ++ .line (.text block.rule) first :: after := by
  obtain ⟨first, more, hlines, hheight⟩ : ∃ first more, textLines setup block = first :: more ∧
      first.height = block.style.lineHeight := Line.exists_wrapped_eq_cons_of_height ..
  refine ⟨first, more.map (.line (.text block.rule)) ++
    [.closeText block.rule, .gap block.spaceAfter], hheight, ?_, ?_⟩
  · simp [IsKeep, or_imp, forall_and]
  · simp [ofText_eq, hlines]

theorem exists_ofCallout_eq (setup : PageSetup) (callout : Callout) :
    ∃ first after, first.height = callout.captionStyle.lineHeight ∧
      (∀ step ∈ after, ¬step.IsKeep) ∧
      ofCallout setup callout =
        .space callout.spaceBefore :: .keep (calloutHead setup callout) ::
          .openBox (lookOf callout) :: .line (.box (lookOf callout)) first :: after := by
  obtain ⟨first, more, hlines, hheight⟩ : ∃ first more,
      captionLines setup callout = first :: more ∧
        first.height = callout.captionStyle.lineHeight := Line.exists_wrapped_eq_cons_of_height ..
  refine ⟨first, more.map (.line (.box (lookOf callout))) ++ .gap captionGap ::
    ((bodyLines setup callout).map (.line (.box (lookOf callout))) ++
      [.closeBox (lookOf callout), .gap callout.spaceAfter]), hheight, ?_, ?_⟩
  · simp [IsKeep, or_imp, forall_and]
  · unfold ofCallout
    dsimp only
    rw [hlines]
    rfl

end Step

/-- Whether the first line of the elements fits under the cursor, and with it the room that its
element asks for. -/
def BeginsAt (setup : PageSetup) (y : Length) : List Element → Prop
  | [] => False
  | .spacer height :: rest => BeginsAt setup (Length.larger (y - height) setup.bottom) rest
  | .text block :: _ =>
    (block.keepWithNext > 0 → ¬y - Step.textRoom setup block < setup.bottom) ∧
      ¬y - block.style.lineHeight < setup.bottom
  | .callout note :: _ =>
    let y := Length.larger (y - note.spaceBefore) setup.bottom
    ¬y - Step.calloutHead setup note < setup.bottom ∧
      ¬y - note.padding - note.captionStyle.lineHeight - note.padding < setup.bottom

namespace Flow

variable {sheet : Sheet} {flow : Flow}

theorem head?_linePages_of_line (h : flow.atTop = false) (setting : Setting) (line : Line)
    (rest : List Step) :
    (linePages sheet flow (.line setting line :: rest)).head? = some flow.finished.length ↔
      ¬lineEnd setting line flow.y < sheet.setup.bottom := by
  rw [linePages_cons_of_line, List.head?_cons, Option.some_inj, length_finished_placeLine h]
  split_ifs with hover
  · exact iff_of_false (Nat.succ_ne_self _) (Decidable.not_not.mpr hover)
  · exact iff_of_true rfl hover

/-- What begins by asking for more room than there is does not begin on the page. -/
theorem head?_linePages_of_keep (h : flow.atTop = false) (height : Length) {steps : List Step}
    (hsteps : ∀ flow : Flow, ∃ page ≥ flow.finished.length,
      (linePages sheet flow steps).head? = some page) :
    (linePages sheet flow (.keep height :: steps)).head? = some flow.finished.length ↔
      ¬flow.y - height < sheet.setup.bottom ∧
        (linePages sheet flow steps).head? = some flow.finished.length := by
  have hkeep : linePages sheet flow (.keep height :: steps) =
      linePages sheet (Flow.step sheet flow (.keep height)) steps := rfl
  rw [hkeep, Flow.step, h]
  by_cases hfull : flow.y - height < sheet.setup.bottom
  · rw [if_pos (by simpa using hfull)]
    obtain ⟨page, hpage, hhead⟩ := hsteps (newPage sheet flow)
    rw [length_finished_newPage] at hpage
    rw [hhead, Option.some_inj]
    exact iff_of_false (by omega) fun h ↦ h.1 hfull
  · rw [if_neg (by simpa using hfull), and_iff_right hfull]

theorem step_space (h : flow.atTop = false) (height : Length) :
    Flow.step sheet flow (.space height) =
      { flow with y := Length.larger (flow.y - height) sheet.setup.bottom } :=
  if_neg (by simp [h])

theorem exists_head?_linePages_of_line (flow : Flow) (setting : Setting) (line : Line)
    (rest : List Step) :
    ∃ page ≥ flow.finished.length,
      (linePages sheet flow (.line setting line :: rest)).head? = some page :=
  ⟨_, length_finished_le_placeLine setting line, rfl⟩

theorem head?_linePages_of_box (h : flow.atTop = false) (height : Length) (look : BoxLook)
    (line : Line) (rest : List Step) :
    (linePages sheet flow
        (.keep height :: .openBox look :: .line (.box look) line :: rest)).head? =
        some flow.finished.length ↔
      ¬flow.y - height < sheet.setup.bottom ∧
        ¬flow.y - look.padding - line.height - look.padding < sheet.setup.bottom := by
  have hopen (flow : Flow) :
      linePages sheet flow (.openBox look :: .line (.box look) line :: rest) =
        linePages sheet (openBox look flow) (.line (.box look) line :: rest) := rfl
  have hline : (linePages sheet (openBox look flow) (.line (.box look) line :: rest)).head? =
      some (openBox look flow).finished.length ↔ _ := head?_linePages_of_line rfl ..
  refine (head?_linePages_of_keep h height fun flow ↦ ?_).trans (and_congr_right fun _ ↦ hline)
  rw [hopen]
  exact exists_head?_linePages_of_line (openBox look flow) ..

/-- The first line of elements goes to the page of the cursor if it fits there, and to the next
one if it does not. -/
theorem head?_linePages_iff (h : flow.atTop = false) (elements : List Element) :
    (linePages sheet flow (elements.flatMap (Step.ofElement sheet.setup))).head? =
        some flow.finished.length ↔ BeginsAt sheet.setup flow.y elements := by
  induction elements generalizing flow with
  | nil => exact iff_of_false (by simp [linePages]) id
  | cons element rest ih =>
    rw [List.flatMap_cons]
    cases element with
    | spacer height =>
      have hpages : linePages sheet flow (Step.ofElement sheet.setup (.spacer height) ++
          rest.flatMap (Step.ofElement sheet.setup)) =
          linePages sheet (Flow.step sheet flow (.space height))
            (rest.flatMap (Step.ofElement sheet.setup)) := rfl
      rw [hpages, step_space h, BeginsAt]
      exact ih h
    | text block =>
      obtain ⟨first, after, hheight, -, hsteps⟩ := Step.exists_ofText_eq sheet.setup block
      have hroom : lineEnd (.text block.rule) first flow.y = flow.y - block.style.lineHeight := by
        rw [lineEnd, hheight]
      rw [Step.ofElement, hsteps, Step.roomSteps, BeginsAt, ← hroom, List.append_assoc,
        List.cons_append]
      by_cases hkeep : block.keepWithNext > 0
      · rw [if_pos hkeep, forall_prop_of_true hkeep, ← head?_linePages_of_line h]
        exact head?_linePages_of_keep h _ fun flow ↦ exists_head?_linePages_of_line ..
      · rw [if_neg hkeep, forall_prop_of_false hkeep, true_and]
        exact head?_linePages_of_line h ..
    | callout note =>
      obtain ⟨first, after, hheight, -, hsteps⟩ := Step.exists_ofCallout_eq sheet.setup note
      have hpages : linePages sheet flow (Step.ofCallout sheet.setup note ++
          rest.flatMap (Step.ofElement sheet.setup)) =
          linePages sheet (Flow.step sheet flow (.space note.spaceBefore))
            (.keep (Step.calloutHead sheet.setup note) :: .openBox (Step.lookOf note) ::
              .line (.box (Step.lookOf note)) first ::
                (after ++ rest.flatMap (Step.ofElement sheet.setup))) := by
        rw [hsteps]
        rfl
      obtain ⟨below, hbelow⟩ : ∃ below,
          Flow.step sheet flow (.space note.spaceBefore) = below := ⟨_, rfl⟩
      have hspace := hbelow.symm.trans (step_space h note.spaceBefore)
      have htop : below.atTop = false := by
        rw [hspace]
        exact h
      have hfinished : below.finished = flow.finished := by rw [hspace]
      have hy : below.y = Length.larger (flow.y - note.spaceBefore) sheet.setup.bottom := by
        rw [hspace]
      rw [Step.ofElement, hpages, hbelow, BeginsAt, ← hheight, ← hfinished, ← hy]
      exact head?_linePages_of_box htop ..

/-! ### Last lines -/

theorem getLast?_linePages_of_line (before : List Step) (setting : Setting) (line : Line) :
    (linePages sheet flow (before ++ [.line setting line])).getLast? =
      some (run sheet flow (before ++ [.line setting line])).finished.length := by
  rw [linePages_append, run_append]
  exact List.getLast?_concat ..

/-- The last line of a text is on the page that the text ends on. -/
theorem getLast?_linePages_ofText (setup : PageSetup) (block : TextBlock) :
    (linePages sheet flow (Step.ofText setup block)).getLast? =
      some (run sheet flow (Step.ofText setup block)).finished.length := by
  have hne : Step.textLines setup block ≠ [] := by
    obtain ⟨first, more, hlines⟩ : ∃ first more, Step.textLines setup block = first :: more :=
      Line.exists_wrapped_eq_cons ..
    rw [hlines]
    exact List.cons_ne_nil _ _
  obtain ⟨before, last, hlines⟩ := (List.eq_nil_or_concat _).resolve_left hne
  have hend (flow : Flow) :
      linePages sheet flow [.closeText block.rule, .gap block.spaceAfter] = [] ∧
        (run sheet flow [.closeText block.rule, .gap block.spaceAfter]).finished =
          flow.finished := ⟨rfl, finished_paintRule block.rule⟩
  unfold Step.ofText
  dsimp only
  rw [hlines, List.concat_eq_append, List.map_append, List.map_singleton, ← List.append_assoc,
    linePages_append, (hend _).1, List.append_nil, run_append, (hend _).2]
  exact getLast?_linePages_of_line ..

end Flow

/-! ### Documents -/

namespace Document

variable (theme : Theme) (doc : Document)

/-- The flow after the header and the first `count` blocks. -/
def flowAfter (count : Nat) : Flow :=
  let layout := Layout.ofDocument theme doc
  let sheet := Sheet.ofLayout layout
  Flow.run sheet (Flow.start sheet) (Step.ofHeader layout.page layout.header ++
    ((doc.blocks.take count).map (Step.ofBlock theme)).flatten)

/-- For each block of a document the pages of its lines. -/
def linePages : List (List Nat) :=
  Flow.blockPages (Sheet.ofLayout (Layout.ofDocument theme doc)) (doc.flowAfter theme 0)
    (doc.blocks.map (Step.ofBlock theme))

theorem flatten_map_ofBlock (blocks : List Block) :
    (blocks.map (Step.ofBlock theme)).flatten =
      (blocks.flatMap (Layout.ofBlock theme)).flatMap (Step.ofElement theme.page) := by
  rw [← List.flatMap_def, List.flatMap_assoc]
  rfl

/-- A document with blocks shows these and no placeholder. -/
theorem elements_ofDocument (h : doc.blocks ≠ []) :
    (Layout.ofDocument theme doc).elements = doc.blocks.flatMap (Layout.ofBlock theme) := by
  obtain ⟨block, rest, hblocks⟩ := List.exists_cons_of_ne_nil h
  have hlayout : (Layout.ofDocument theme doc).elements = Layout.elementsOf theme doc.blocks := rfl
  rw [hlayout, hblocks]
  rfl

/-- The pages of the blocks are those that the layout of the document draws its lines on, after
the lines of the header. -/
theorem flatten_linePages (h : doc.blocks ≠ []) :
    let layout := Layout.ofDocument theme doc
    let sheet := Sheet.ofLayout layout
    Flow.linePages sheet (Flow.start sheet) layout.steps =
      Flow.linePages sheet (Flow.start sheet) (Step.ofHeader layout.page layout.header) ++
        (doc.linePages theme).flatten := by
  intro layout sheet
  have hstart : doc.flowAfter theme 0 =
      Flow.run sheet (Flow.start sheet) (Step.ofHeader layout.page layout.header) := by
    unfold flowAfter
    dsimp only
    rw [List.take_zero, List.map_nil, List.flatten_nil, List.append_nil]
  have hpage : layout.page = theme.page := rfl
  rw [linePages, Flow.flatten_blockPages, hstart, Layout.steps, elements_ofDocument theme doc h,
    hpage, flatten_map_ofBlock, Flow.linePages_append]

variable {doc}

theorem flowAfter_eq_run (count : Nat) :
    doc.flowAfter theme count =
      Flow.run (Sheet.ofLayout (Layout.ofDocument theme doc)) (doc.flowAfter theme 0)
        ((doc.blocks.take count).map (Step.ofBlock theme)).flatten := by
  unfold flowAfter
  dsimp only
  rw [List.take_zero, List.map_nil, List.flatten_nil, List.append_nil, Flow.run_append]

theorem flowAfter_succ {count : Nat} {block : Block} (h : doc.blocks[count]? = some block) :
    doc.flowAfter theme (count + 1) =
      Flow.run (Sheet.ofLayout (Layout.ofDocument theme doc)) (doc.flowAfter theme count)
        (Step.ofBlock theme block) := by
  rw [flowAfter_eq_run, List.take_add_one, h, List.map_append, List.flatten_append,
    Flow.run_append, ← flowAfter_eq_run]
  simp

/-- The lines of a block are drawn from the flow after the blocks before it. -/
theorem getElem?_linePages {count : Nat} {block : Block} (h : doc.blocks[count]? = some block) :
    (doc.linePages theme)[count]? =
      some (Flow.linePages (Sheet.ofLayout (Layout.ofDocument theme doc))
        (doc.flowAfter theme count) (Step.ofBlock theme block)) := by
  obtain ⟨hcount, hblock⟩ := List.getElem?_eq_some_iff.mp h
  have hmap : doc.blocks.map (Step.ofBlock theme) =
      (doc.blocks.take count).map (Step.ofBlock theme) ++ Step.ofBlock theme block ::
        (doc.blocks.drop (count + 1)).map (Step.ofBlock theme) := by
    rw [← List.map_cons, ← List.map_append, ← hblock, ← List.drop_eq_getElem_cons hcount,
      List.take_append_drop]
  have hlength : (Flow.blockPages (Sheet.ofLayout (Layout.ofDocument theme doc))
      (doc.flowAfter theme 0) ((doc.blocks.take count).map (Step.ofBlock theme))).length =
        count := by
    rw [Flow.length_blockPages, List.length_map, List.length_take_of_le (Nat.le_of_lt hcount)]
  rw [linePages, hmap, Flow.blockPages_append, ← flowAfter_eq_run, Flow.blockPages,
    List.getElem?_append_right (Nat.le_of_eq hlength), hlength, Nat.sub_self]
  rfl

/-- What is drawn for a block and for those before it stays when the others are laid out. -/
theorem keeps_flowAfter {count : Nat} {block : Block} (h : doc.blocks[count]? = some block) :
    Flow.Keeps (doc.flowAfter theme (count + 1)) (Layout.ofDocument theme doc).flow := by
  have hne : doc.blocks ≠ [] := List.ne_nil_of_mem (List.mem_of_getElem? h)
  have hsteps : (Layout.ofDocument theme doc).steps =
      Step.ofHeader theme.page (Layout.headerOf theme doc) ++
        ((doc.blocks.take (count + 1)).map (Step.ofBlock theme)).flatten ++
          ((doc.blocks.drop (count + 1)).map (Step.ofBlock theme)).flatten := by
    rw [List.append_assoc, ← List.flatten_append, ← List.map_append, List.take_append_drop,
      flatten_map_ofBlock, ← elements_ofDocument theme doc hne]
    rfl
  rw [Layout.flow, hsteps, Flow.run_append]
  exact Flow.keeps_run _ _ _

/-- Between two blocks every page has its footer, and the mark of the top is exact. -/
theorem exists_footed_flowAfter (doc : Document) (count : Nat) :
    let sheet := Sheet.ofLayout (Layout.ofDocument theme doc)
    ∃ footer, sheet.footer = [footer] ∧ Flow.Footed footer (doc.flowAfter theme count) ∧
      Flow.MarksTop sheet (doc.flowAfter theme count) := by
  intro sheet
  let layout := Layout.ofDocument theme doc
  obtain ⟨footer, hfooter⟩ := Sheet.exists_footerRuns_eq layout.page layout.footer
  have hsheet : sheet.footer = [footer] := hfooter
  have hstart : Flow.Footed footer (Flow.start sheet) := Flow.footed_start hsheet
  have hheader := Flow.occupied_ofHeader hsheet hstart layout.page layout.header
  have hfooted := Flow.footed_run hsheet hstart (Step.ofHeader layout.page layout.header)
  have hflow : doc.flowAfter theme count = Flow.run sheet
      (Flow.run sheet (Flow.start sheet) (Step.ofHeader layout.page layout.header))
        (((doc.blocks.take count).flatMap (Layout.ofBlock theme)).flatMap
          (Step.ofElement theme.page)) := by
    rw [← flatten_map_ofBlock, ← Flow.run_append]
    rfl
  rw [hflow]
  exact ⟨footer, hsheet, Flow.footed_run hsheet hfooted _,
    Flow.marksTop_elements hsheet hfooted hheader.marksTop theme.page _⟩

end Document

end StudyGuide
