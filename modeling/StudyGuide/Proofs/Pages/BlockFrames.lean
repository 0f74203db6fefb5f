import StudyGuide.Proofs.Pages.Frames

/-!
The rules and boxes of whole blocks. What a block paints on a page is told by the lines that it
draws there. A text has its rule from its first line on the page to its last
(`Flow.ruleFollows_ofText`). A callout has its box from where it enters the page to under its last
line there, and on one page more: that where it begins, if its first line does not fit on it
(`Flow.Box.follows`). Room that a block asks for and the gap after it leave the pages as they are.
-/

set_option autoImplicit false
set_option relaxedAutoImplicit false

namespace StudyGuide

namespace Flow

variable {sheet : Sheet} {flow : Flow}

/-! ### Between blocks -/

theorem pageAt_keep (height : Length) (page : Nat) :
    pageAt sheet (Flow.step sheet flow (.keep height)) page = pageAt sheet flow page := by
  rcases step_keep_cases sheet flow height with hstays | hturns
  · rw [hstays]
  · rw [hturns, pageAt_newPage]

theorem pageAt_space (height : Length) (page : Nat) :
    pageAt sheet (Flow.step sheet flow (.space height)) page = pageAt sheet flow page := by
  unfold Flow.step
  dsimp only
  split_ifs with htop <;> rfl

theorem fragmentTop_keep (hclosed : flow.fragmentTop = none) (height : Length) :
    (Flow.step sheet flow (.keep height)).fragmentTop = none := by
  rcases step_keep_cases sheet flow height with hstays | hturns
  · rw [hstays, hclosed]
  · rw [hturns]
    rfl

theorem fragmentTop_space (hclosed : flow.fragmentTop = none) (height : Length) :
    (Flow.step sheet flow (.space height)).fragmentTop = none := by
  unfold Flow.step
  dsimp only
  split_ifs with htop <;> exact hclosed

/-! ### Texts -/

/-- The first line of a text opens it where the line is drawn, and nothing is painted yet. -/
theorem ready_of_closed (sheet : Sheet) (hclosed : flow.fragmentTop = none) (rule : Option Border)
    (line : Line) :
    let ready := openText (.text rule) (turnPage sheet (.text rule) line flow)
    ready.fragmentTop = some ready.y ∧
      ∀ page, pageAt sheet ready page = pageAt sheet flow page := by
  intro ready
  have hturned : turnPage sheet (.text rule) line flow = flow ∨
      turnPage sheet (.text rule) line flow = newPage sheet flow := by
    unfold turnPage
    dsimp only
    rw [paintRule_of_none rule hclosed]
    split_ifs
    · exact Or.inl rfl
    · exact Or.inl rfl
    · exact Or.inr rfl
  rcases hturned with hstays | hturns
  · have hready : ready = openText (.text rule) flow := congrArg (openText (.text rule)) hstays
    rw [hready, openText, hclosed]
    exact ⟨rfl, fun page ↦ rfl⟩
  · have hready : ready = openText (.text rule) (newPage sheet flow) :=
      congrArg (openText (.text rule)) hturns
    rw [hready]
    exact ⟨rfl, fun page ↦ pageAt_newPage page⟩

theorem linesOn_of_no_lines (steps : List Step) (h : steps.filterMap Step.line? = [])
    (page : Nat) : linesOn sheet page flow steps = [] := by
  induction steps generalizing flow with
  | nil => rfl
  | cons step rest ih =>
    rw [List.filterMap_eq_nil_iff] at h
    have hnone : placed sheet flow step = [] := by
      rw [← List.map_eq_nil_iff (f := PlacedLine.line), map_line_placed, h step List.mem_cons_self]
      rfl
    have hrest : rest.filterMap Step.line? = [] :=
      List.filterMap_eq_nil_iff.mpr fun step hstep ↦ h step (List.mem_cons_of_mem _ hstep)
    rw [linesOn, hnone, ite_self, ih hrest]
    rfl

theorem pageAt_closeText {rule : Option Border} {top : Length} (hopen : flow.fragmentTop = some top)
    (page : Nat) :
    pageAt sheet (Flow.step sheet flow (.closeText rule)) page = (pageAt sheet flow page).extend
      (if flow.finished.length = page then ruleShapes sheet rule top flow.y else []) [] := by
  have hpainted : paintRule sheet rule flow = flow.paint (ruleShapes sheet rule top flow.y) := by
    rw [paintRule, hopen]
  have hsame : pageAt sheet (Flow.step sheet flow (.closeText rule)) page =
      pageAt sheet (paintRule sheet rule flow) page := rfl
  rw [hsame, hpainted, pageAt_paint]

/-- What the rule beside a text paints on a page, told by the lines `own` that it has there: one
area at the margin, from the top of the first of them to under the last. -/
structure RuleFollows (setup : PageSetup) (rule : Option Border) (own : List PlacedLine)
    (painted : List Shape) : Prop where
  unruled : rule = none → painted = []
  elsewhere : own = [] → painted = []
  lines : ∀ border, rule = some border → ∀ first last, own.head? = some first →
    own.getLast? = some last → painted =
      [.area border.color setup.margin last.bottom border.width (first.top - last.bottom)]

theorem RuleFollows.nil (setup : PageSetup) (rule : Option Border) :
    RuleFollows setup rule [] [] where
  unruled := fun _ ↦ rfl
  elsewhere := fun _ ↦ rfl
  lines := fun _ _ _ _ hfirst ↦ absurd hfirst (by simp)

theorem RuleFollows.of_ruleShapes {rule : Option Border} {own : List PlacedLine}
    {painted : List Shape} (helsewhere : own = [] → painted = [])
    (hlines : ∀ first last, own.head? = some first → own.getLast? = some last →
      painted = ruleShapes sheet rule first.top last.bottom) :
    RuleFollows sheet.setup rule own painted where
  unruled := by
    rintro rfl
    cases own with
    | nil => exact helsewhere rfl
    | cons first rest =>
      exact hlines first _ rfl (List.getLast?_eq_some_getLast (List.cons_ne_nil first rest))
  elsewhere := helsewhere
  lines := by
    rintro border rfl first last hfirst hlast
    exact hlines first last hfirst hlast

/-- A text with its first line drawn goes on with more lines: `first` stands over those on its
page, and the pages after it begin with a line at their top. -/
theorem Framed.ruleFollows {rule : Option Border} {top : Length} {before after : Flow}
    {more : Nat → List PlacedLine} {first : PlacedLine}
    (h : Framed sheet (.text rule) top before after more (reachOn sheet (.text rule) before more))
    (htop : first.top = top) (hbottom : first.bottom = before.y) (page : Nat) :
    RuleFollows sheet.setup rule
      ((if before.finished.length = page then [first] else []) ++ more page)
      (if before.finished.length ≤ page ∧ page ≤ after.finished.length then
        ruleShapes sheet rule (frameTop sheet before top page)
          (reachOn sheet (.text rule) before more page) else []) := by
  have hle := h.le
  rcases Nat.lt_trichotomy page before.finished.length with hearly | hsame | hlate
  · rw [if_neg (by omega), if_neg (by omega), h.outside page (Or.inl hearly)]
    exact .nil sheet.setup rule
  · have hwithin : before.finished.length ≤ page ∧ page ≤ after.finished.length := by omega
    rw [if_pos hwithin, if_pos hsame.symm, frameTop, if_pos hsame, reachOn, if_pos hsame]
    refine .of_ruleShapes (fun hnone ↦ absurd hnone (List.cons_ne_nil _ _))
      fun head last hhead hlast ↦ ?_
    obtain rfl := Option.some.inj hhead
    have hunder : cursorUnder before.y (more page) = last.bottom := by
      rw [← cursorUnder_of_getLast? hlast before.y, cursorUnder_append, ← hbottom]
      rfl
    rw [hunder, htop]
  · rw [if_neg (Nat.ne_of_lt hlate), List.nil_append]
    by_cases hwithin : page ≤ after.finished.length
    · obtain ⟨next, others, hmore, hentry⟩ := h.begins page hlate hwithin
      rw [if_pos ⟨Nat.le_of_lt hlate, hwithin⟩, frameTop, if_neg (Nat.ne_of_gt hlate)]
      refine .of_ruleShapes (fun hnone ↦ absurd (hmore.symm.trans hnone) (List.cons_ne_nil _ _))
        fun head last hhead hlast ↦ ?_
      rw [hmore] at hhead
      obtain rfl := Option.some.inj hhead
      rw [hentry, reachOn_of_getLast? hlast]
      rfl
    · rw [if_neg (by omega), h.outside page (Or.inr (Nat.lt_of_not_le hwithin))]
      exact .nil sheet.setup rule

theorem ruleFollows_textLines (hclosed : flow.fragmentTop = none) (rule : Option Border)
    (first : Line) (rest : List Line) (page : Nat) :
    let steps := (first :: rest).map (Step.line (.text rule)) ++ [.closeText rule]
    RuleFollows sheet.setup rule (linesOn sheet page flow steps)
      (paintedOn sheet page flow (run sheet flow steps)) := by
  intro steps
  let ready := openText (.text rule) (turnPage sheet (.text rule) first flow)
  let opened := draw first ready
  let after := run sheet opened (rest.map (Step.line (.text rule)))
  let more := fun page ↦ linesOn sheet page opened (rest.map (Step.line (.text rule)))
  obtain ⟨hopen, hready⟩ := ready_of_closed sheet hclosed rule first
  have hopened : opened.fragmentTop = some ready.y := hopen
  have hsetting : Setting.text rule ≠ .header := nofun
  have hframed : Framed sheet (.text rule) ready.y opened after more
      (reachOn sheet (.text rule) opened more) := framed_lines sheet hsetting hopened rfl rest
  have hown : linesOn sheet page flow steps =
      (if opened.finished.length = page then [⟨first, ready.y⟩] else []) ++ more page := by
    have hsplit : linesOn sheet page flow steps =
        (if opened.finished.length = page then [⟨first, ready.y⟩] else []) ++
          linesOn sheet page opened (rest.map (Step.line (.text rule)) ++ [.closeText rule]) := rfl
    rw [hsplit, linesOn_append, linesOn_of_no_lines [.closeText rule] rfl, List.append_nil]
  have hpainted : paintedOn sheet page flow (run sheet flow steps) =
      if opened.finished.length ≤ page ∧ page ≤ after.finished.length then
        ruleShapes sheet rule (frameTop sheet opened ready.y page)
          (reachOn sheet (.text rule) opened more page) else [] := by
    have hrun : run sheet flow steps = Flow.step sheet after (.closeText rule) :=
      run_append sheet opened (rest.map (Step.line (.text rule))) [.closeText rule]
    apply paintedOn_eq
    rw [hrun, hframed.closed (pageAt_closeText hframed.open_eq) page, pageAt_draw, hready,
      Page.extend_extend, List.nil_append]
    rfl
  have hbottom : PlacedLine.bottom ⟨first, ready.y⟩ = opened.y := rfl
  rw [hown, hpainted]
  exact hframed.ruleFollows rfl hbottom page

theorem paintedOn_congr {before before' after after' : Flow} {page : Nat}
    (hbefore : pageAt sheet before page = pageAt sheet before' page)
    (hafter : pageAt sheet after page = pageAt sheet after' page) :
    paintedOn sheet page before after = paintedOn sheet page before' after' := by
  rw [paintedOn, paintedOn, hbefore, hafter]

theorem roomSteps_of_closed (hclosed : flow.fragmentTop = none) (setup : PageSetup)
    (block : TextBlock) (page : Nat) :
    let kept := run sheet flow (Step.roomSteps setup block)
    kept.fragmentTop = none ∧ linesOn sheet page flow (Step.roomSteps setup block) = [] ∧
      pageAt sheet flow page = pageAt sheet kept page := by
  intro kept
  by_cases hkeep : block.keepWithNext > 0
  · have hsteps : Step.roomSteps setup block = [.keep (Step.textRoom setup block)] := if_pos hkeep
    have hkept : kept = Flow.step sheet flow (.keep (Step.textRoom setup block)) :=
      congrArg (run sheet flow) hsteps
    rw [hkept, hsteps]
    exact ⟨fragmentTop_keep hclosed _, linesOn_of_no_lines _ rfl page, (pageAt_keep _ page).symm⟩
  · have hsteps : Step.roomSteps setup block = [] := if_neg hkeep
    have hkept : kept = flow := congrArg (run sheet flow) hsteps
    rw [hkept, hsteps]
    exact ⟨hclosed, rfl, rfl⟩

/-- Asking for room and the gap after a text make no difference to what is on the pages. -/
theorem ruleFollows_ofText (sheet : Sheet) (hclosed : flow.fragmentTop = none) (block : TextBlock)
    (page : Nat) :
    RuleFollows sheet.setup block.rule (linesOn sheet page flow (Step.ofText sheet.setup block))
      (paintedOn sheet page flow (run sheet flow (Step.ofText sheet.setup block))) := by
  obtain ⟨first, rest, hlines⟩ : ∃ first rest, Step.textLines sheet.setup block = first :: rest :=
    Line.exists_wrapped_eq_cons ..
  let kept := run sheet flow (Step.roomSteps sheet.setup block)
  let lines := (first :: rest).map (Step.line (.text block.rule)) ++ [.closeText block.rule]
  obtain ⟨hkept, hnone, hsame⟩ := roomSteps_of_closed hclosed sheet.setup block page
  have hown : linesOn sheet page flow (Step.ofText sheet.setup block) =
      linesOn sheet page kept lines := by
    rw [Step.ofText_eq, hlines, linesOn_append, linesOn_append, hnone, linesOn_of_no_lines [_] rfl,
      List.append_nil, List.nil_append]
  have hpainted : paintedOn sheet page flow (run sheet flow (Step.ofText sheet.setup block)) =
      paintedOn sheet page kept (run sheet kept lines) := by
    refine paintedOn_congr hsame ?_
    rw [Step.ofText_eq, hlines, run_append, run_append]
    rfl
  rw [hown, hpainted]
  exact ruleFollows_textLines hkept block.rule first rest page

/-! ### Boxes -/

/-- A first line that is not on the page in hand did not fit there, and the page was left. -/
theorem turned_of_linesOn_eq_nil {setting : Setting} (htop : flow.atTop = false) {first : Line}
    {rest : List Step}
    (h : linesOn sheet flow.finished.length flow (.line setting first :: rest) = []) :
    lineEnd setting first flow.y < sheet.setup.bottom ∧
      flow.finished.length < (run sheet flow (.line setting first :: rest)).finished.length := by
  have hlength : (Flow.step sheet flow (.line setting first)).finished.length =
      if lineEnd setting first flow.y < sheet.setup.bottom then flow.finished.length + 1
        else flow.finished.length := length_finished_placeLine htop setting first
  by_cases hfull : lineEnd setting first flow.y < sheet.setup.bottom
  · rw [if_pos hfull] at hlength
    have hlater := (Grows.of_keeps
      (keeps_run sheet (Flow.step sheet flow (.line setting first)) rest)).length_finished_le
    exact ⟨hfull, Nat.lt_of_lt_of_le (hlength ▸ Nat.lt_succ_self _) hlater⟩
  · rw [if_neg hfull] at hlength
    rw [linesOn] at h
    have hhere := (List.append_eq_nil_iff.mp h).1
    rw [if_pos hlength] at hhere
    exact absurd hhere (List.cons_ne_nil _ _)

theorem pageAt_closeBox {look : BoxLook} {top : Length} (hopen : flow.fragmentTop = some top)
    (page : Nat) :
    pageAt sheet (Flow.step sheet flow (.closeBox look)) page = (pageAt sheet flow page).extend
      (if flow.finished.length = page then boxShapes sheet look top (flow.y - look.padding) else [])
      [] := by
  have hpainted : paintBox sheet look (flow.y - look.padding) (flow.moveDown look.padding) =
      (flow.moveDown look.padding).paint (boxShapes sheet look top (flow.y - look.padding)) := by
    rw [paintBox, moveDown, hopen]
  have hsame : pageAt sheet (Flow.step sheet flow (.closeBox look)) page = pageAt sheet
      (paintBox sheet look (flow.y - look.padding) (flow.moveDown look.padding)) page := rfl
  rw [hsame, hpainted, pageAt_paint]
  rfl

namespace Box

variable (sheet : Sheet) (note : Callout) (flow : Flow)

/-- The flow where the box begins, after the callout has asked for room. -/
def entered : Flow :=
  run sheet flow [.space note.spaceBefore, .keep (Step.calloutHead sheet.setup note)]

def opened : Flow := openBox (Step.lookOf note) (entered sheet note flow)

def captionSteps : List Step :=
  (Step.captionLines sheet.setup note).map (.line (.box (Step.lookOf note)))

def underCaption : Flow := run sheet (opened sheet note flow) (captionSteps sheet note)

def overBody : Flow := (underCaption sheet note flow).moveDown Step.captionGap

def bodySteps : List Step :=
  (Step.bodyLines sheet.setup note).map (.line (.box (Step.lookOf note)))

def underBody : Flow := run sheet (overBody sheet note flow) (bodySteps sheet note)

/-- The lines of the caption on a page. -/
def captionOn (page : Nat) : List PlacedLine :=
  linesOn sheet page (opened sheet note flow) (captionSteps sheet note)

/-- The lines of the body on a page. -/
def bodyOn (page : Nat) : List PlacedLine :=
  linesOn sheet page (overBody sheet note flow) (bodySteps sheet note)

/-- The cursor where the callout enters a page. -/
def top (page : Nat) : Length :=
  frameTop sheet (entered sheet note flow) (entered sheet note flow).y page

/-- The cursor where the callout leaves a page or ends. -/
def reach (page : Nat) : Length :=
  let setting : Setting := .box (Step.lookOf note)
  if page < (underCaption sheet note flow).finished.length then
    reachOn sheet setting (opened sheet note flow) (captionOn sheet note flow) page
  else reachOn sheet setting (overBody sheet note flow) (bodyOn sheet note flow) page

theorem pageAt_entered (page : Nat) :
    pageAt sheet (entered sheet note flow) page = pageAt sheet flow page :=
  (pageAt_keep _ page).trans (pageAt_space _ page)

theorem framed_caption :
    Framed sheet (.box (Step.lookOf note)) (entered sheet note flow).y (opened sheet note flow)
      (underCaption sheet note flow) (captionOn sheet note flow)
      (reachOn sheet (.box (Step.lookOf note)) (opened sheet note flow)
        (captionOn sheet note flow)) := by
  have hsetting : Setting.box (Step.lookOf note) ≠ .header := nofun
  exact Flow.framed_lines sheet hsetting rfl rfl (Step.captionLines sheet.setup note)

theorem framed_body :
    Framed sheet (.box (Step.lookOf note))
      (frameTop sheet (opened sheet note flow) (entered sheet note flow).y
        (underCaption sheet note flow).finished.length)
      (overBody sheet note flow) (underBody sheet note flow) (bodyOn sheet note flow)
      (reachOn sheet (.box (Step.lookOf note)) (overBody sheet note flow)
        (bodyOn sheet note flow)) := by
  have hsetting : Setting.box (Step.lookOf note) ≠ .header := nofun
  have hcaption := framed_caption sheet note flow
  have hopen : (overBody sheet note flow).fragmentTop = some (frameTop sheet
      (opened sheet note flow) (entered sheet note flow).y
      (underCaption sheet note flow).finished.length) := hcaption.open_eq
  exact Flow.framed_lines sheet hsetting hopen hcaption.atTop_eq (Step.bodyLines sheet.setup note)

/-- Caption and body are drawn one after the other, with the gap between them. -/
theorem framed :
    Framed sheet (.box (Step.lookOf note)) (entered sheet note flow).y (opened sheet note flow)
      (underBody sheet note flow)
      (fun page ↦ captionOn sheet note flow page ++ bodyOn sheet note flow page)
      (reach sheet note flow) := by
  have hfinished : (overBody sheet note flow).finished = (underCaption sheet note flow).finished :=
    rfl
  exact (framed_caption sheet note flow).trans hfinished rfl (framed_body sheet note flow)

/-- The steps of a callout, parted where its box is opened and under its caption. -/
theorem ofCallout_eq :
    Step.ofCallout sheet.setup note =
      [.space note.spaceBefore, .keep (Step.calloutHead sheet.setup note),
          .openBox (Step.lookOf note)] ++ (captionSteps sheet note ++ ([.gap Step.captionGap] ++
        (bodySteps sheet note ++ [.closeBox (Step.lookOf note), .gap note.spaceAfter]))) := by
  simp [Step.ofCallout, captionSteps, bodySteps]

theorem linesOn_ofCallout (page : Nat) :
    linesOn sheet page flow (Step.ofCallout sheet.setup note) =
      captionOn sheet note flow page ++ bodyOn sheet note flow page := by
  rw [ofCallout_eq, linesOn_append, linesOn_append, linesOn_append, linesOn_append,
    linesOn_of_no_lines [_, _, _] rfl, linesOn_of_no_lines [_] rfl, linesOn_of_no_lines [_, _] rfl,
    List.append_nil]
  rfl

/-- The box is painted on the pages from that where it begins to that where it ends. -/
theorem paintedOn_ofCallout (page : Nat) :
    paintedOn sheet page flow (run sheet flow (Step.ofCallout sheet.setup note)) =
      if (entered sheet note flow).finished.length ≤ page ∧
          page ≤ (underBody sheet note flow).finished.length then
        boxShapes sheet (Step.lookOf note) (top sheet note flow page)
          (reach sheet note flow page - note.padding)
      else [] := by
  let closed := Flow.step sheet (underBody sheet note flow) (.closeBox (Step.lookOf note))
  have hrun : run sheet flow (Step.ofCallout sheet.setup note) =
      closed.moveDown note.spaceAfter := by
    rw [ofCallout_eq, run_append, run_append, run_append, run_append]
    rfl
  have hframed := framed sheet note flow
  have hclosed := hframed.closed (pageAt_closeBox hframed.open_eq) page
  have hbefore : pageAt sheet (opened sheet note flow) page = pageAt sheet flow page :=
    pageAt_entered sheet note flow page
  rw [hbefore] at hclosed
  rw [hrun]
  exact paintedOn_eq hclosed

/-- The shapes are those of one box as wide as the text of the page: its fill, if it has one, and
over it its border, if it has one, along the left side or all around. Without height there is
none. -/
structure IsBox (setup : PageSetup) (note : Callout) (top bottom : Length)
    (painted : List Shape) : Prop where
  flat : top - bottom ≤ 0 → painted = []
  tall : ¬top - bottom ≤ 0 → painted =
    (note.fill.toList.map fun fill ↦
      .area fill setup.margin bottom setup.contentWidth (top - bottom)) ++
    note.border.toList.map fun border ↦
      if border.leftOnly then .area border.color setup.margin bottom border.width (top - bottom)
      else .outline border setup.margin bottom (setup.margin + setup.contentWidth) top

theorem isBox_boxShapes (top bottom : Length) :
    IsBox sheet.setup note top bottom (boxShapes sheet (Step.lookOf note) top bottom) := by
  unfold boxShapes Step.lookOf
  refine ⟨fun hflat ↦ if_pos hflat, fun htall ↦ (if_neg htall).trans ?_⟩
  cases note.fill <;> cases note.border with
  | none => rfl
  | some border => cases hleft : border.leftOnly <;> simp [hleft]

/-- What the box of a callout paints on a page, told by the lines `own` that it has there. -/
structure Follows (page : Nat) (own : List PlacedLine) (painted : List Shape) : Prop where
  elsewhere : own = [] → page ≠ (entered sheet note flow).finished.length → painted = []
  /-- Where it begins it has no lines only if the first of them does not fit there. -/
  entry : own = [] → page = (entered sheet note flow).finished.length →
    let inside := (entered sheet note flow).y - note.padding
    (∃ first ∈ (Step.captionLines sheet.setup note).head?,
      inside - first.height - note.padding < sheet.setup.bottom) ∧
    IsBox sheet.setup note (entered sheet note flow).y (inside - note.padding) painted
  /-- The gap under the caption counts where the body begins on the next page. -/
  lines : ∀ last, own.getLast? = some last →
    IsBox sheet.setup note
      (if page = (entered sheet note flow).finished.length then (entered sheet note flow).y
        else sheet.setup.top)
      ((if page = (underCaption sheet note flow).finished.length ∧ bodyOn sheet note flow page = []
        then last.bottom - Step.captionGap else last.bottom) - note.padding) painted

/-- The cursor under the last line that a callout has on a page. -/
theorem reach_eq {page : Nat} {last : PlacedLine}
    (h : (captionOn sheet note flow page ++ bodyOn sheet note flow page).getLast? = some last) :
    reach sheet note flow page =
      if page = (underCaption sheet note flow).finished.length ∧ bodyOn sheet note flow page = []
      then last.bottom - Step.captionGap else last.bottom := by
  have hcaption := framed_caption sheet note flow
  have hbody := framed_body sheet note flow
  have hsame : (overBody sheet note flow).finished.length =
      (underCaption sheet note flow).finished.length := rfl
  cases hown : bodyOn sheet note flow page with
  | nil =>
    rw [hown, List.append_nil] at h
    have hwithin : page ≤ (underCaption sheet note flow).finished.length := by
      by_contra hbeyond
      rw [hcaption.outside page (Or.inr (Nat.lt_of_not_le hbeyond))] at h
      cases h
    rcases Nat.lt_or_eq_of_le hwithin with hearly | rfl
    · rw [reach, if_pos hearly, if_neg fun hlast ↦ Nat.ne_of_lt hearly hlast.1,
        reachOn_of_getLast? h]
    · have hunder : (overBody sheet note flow).y = last.bottom - Step.captionGap := by
        rw [← reachOn_of_getLast? h, ← hcaption.y_eq]
        rfl
      rw [reach, if_neg (Nat.lt_irrefl _), if_pos ⟨rfl, rfl⟩, reachOn, hown, if_pos hsame.symm,
        hunder]
      rfl
  | cons first more =>
    have hlate : ¬page < (underCaption sheet note flow).finished.length := by
      intro hearly
      rw [hbody.outside page (Or.inl hearly)] at hown
      cases hown
    have hlast : (bodyOn sheet note flow page).getLast? = some last := by
      rw [← h, hown, List.getLast?_append_cons]
    rw [reach, if_neg hlate, if_neg fun hnone ↦ List.cons_ne_nil _ _ hnone.2,
      reachOn_of_getLast? hlast]

/-- The caption is not begun where the box is only if its first line does not fit there. -/
theorem turned_of_captionOn_eq_nil
    (h : captionOn sheet note flow (entered sheet note flow).finished.length = []) :
    (∃ first ∈ (Step.captionLines sheet.setup note).head?,
      (entered sheet note flow).y - note.padding - first.height - note.padding <
        sheet.setup.bottom) ∧
    (entered sheet note flow).finished.length <
      (underCaption sheet note flow).finished.length := by
  obtain ⟨first, rest, hfirst⟩ : ∃ first rest, Step.captionLines sheet.setup note = first :: rest :=
    Line.exists_wrapped_eq_cons ..
  rw [captionOn, captionSteps, hfirst, List.map_cons] at h
  rw [underCaption, captionSteps, hfirst, List.map_cons]
  obtain ⟨hfull, hturned⟩ := turned_of_linesOn_eq_nil rfl h
  exact ⟨⟨first, rfl, hfull⟩, hturned⟩

theorem follows (page : Nat) :
    Follows sheet note flow page (linesOn sheet page flow (Step.ofCallout sheet.setup note))
      (paintedOn sheet page flow (run sheet flow (Step.ofCallout sheet.setup note))) := by
  have hframed := framed sheet note flow
  rw [linesOn_ofCallout, paintedOn_ofCallout]
  refine ⟨fun hnone helsewhere ↦ if_neg fun hwithin ↦ ?_, fun hnone hentry ↦ ?_,
    fun last hlast ↦ ?_⟩
  · obtain ⟨first, more, hown, -⟩ :=
      hframed.begins page (Nat.lt_of_le_of_ne hwithin.1 (Ne.symm helsewhere)) hwithin.2
    exact List.cons_ne_nil first more (hown.symm.trans hnone)
  · obtain ⟨hcaption, -⟩ := List.append_eq_nil_iff.mp hnone
    obtain ⟨hfull, hturned⟩ := turned_of_captionOn_eq_nil sheet note flow (hentry ▸ hcaption)
    have hwithin := Nat.le_trans (Nat.le_of_lt hturned) (framed_body sheet note flow).le
    have hreach : reach sheet note flow page = (opened sheet note flow).y := by
      have hopened : page = (opened sheet note flow).finished.length := hentry
      rw [reach, if_pos (hentry ▸ hturned), reachOn, hcaption, if_pos hopened]
      rfl
    have htop : top sheet note flow page = (entered sheet note flow).y := if_pos hentry
    rw [if_pos ⟨Nat.le_of_eq hentry.symm, hentry ▸ hwithin⟩, hreach, htop]
    exact ⟨hfull, isBox_boxShapes sheet note _ _⟩
  · have hwithin : (entered sheet note flow).finished.length ≤ page ∧
        page ≤ (underBody sheet note flow).finished.length := by
      by_contra houtside
      have hnone := hframed.outside page (by
        rcases not_and_or.mp houtside with hbefore | hafter
        · exact Or.inl (Nat.lt_of_not_le hbefore)
        · exact Or.inr (Nat.lt_of_not_le hafter))
      rw [hnone] at hlast
      cases hlast
    rw [if_pos hwithin, reach_eq sheet note flow hlast]
    exact isBox_boxShapes sheet note _ _

end Box

end Flow

end StudyGuide
