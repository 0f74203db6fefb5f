import Mathlib.Algebra.BigOperators.Group.List.Lemmas
import Mathlib.Algebra.GroupWithZero.Nat
import StudyGuide.Document

/-!
How many blocks of each kind a guide has. One more block either raises the number of its kind where
that stands or puts the kind at the end (`Document.countKind_cases`). So the counts are at every
block a tally of the blocks up to it (`Document.IsTally.countKind`), and later blocks leave the
kinds that are listed where they stand (`Document.grows_countKind`).

What a tally is says nothing of counting: it reads the place of the first block of each kind and
the number of its blocks. Blocks have one tally only (`Document.IsTally.unique`), so this tells the
counts of a document in full.
-/

set_option autoImplicit false
set_option relaxedAutoImplicit false

namespace StudyGuide

theorem BlockKind.name_injective : Function.Injective BlockKind.name := by
  intro kind other hname
  have hkind : some kind = some other := by
    rw [← ofName?_name kind, hname, ofName?_name other]
  exact Option.some.inj hkind

namespace Document

variable {kind : BlockKind} {kinds : List BlockKind} {entry : BlockKind × Nat}
  {counts before after : List (BlockKind × Nat)}

/-! ### One more block -/

theorem mem_append_cons_iff {other : BlockKind × Nat} :
    other ∈ before ++ entry :: after ↔ other = entry ∨ other ∈ before ++ after :=
  List.perm_middle.mem_iff.trans List.mem_cons

theorem countKind_cases (kind : BlockKind) (counts : List (BlockKind × Nat)) :
    (∃ before count after, counts = before ++ (kind, count) :: after ∧
      countKind kind counts = before ++ (kind, count + 1) :: after) ∨
    (kind ∉ counts.map Prod.fst ∧ countKind kind counts = counts ++ [(kind, 1)]) := by
  induction counts with
  | nil => exact .inr ⟨List.not_mem_nil, rfl⟩
  | cons entry rest ih =>
    obtain ⟨seen, number⟩ := entry
    by_cases hseen : seen = kind
    · subst hseen
      exact .inl ⟨[], number, rest, rfl, if_pos rfl⟩
    · have hstep : countKind kind ((seen, number) :: rest) =
          (seen, number) :: countKind kind rest := if_neg hseen
      rcases ih with ⟨before, count, after, hrest, hcounted⟩ | ⟨hfresh, hcounted⟩
      · refine .inl ⟨(seen, number) :: before, count, after, ?_, ?_⟩
        · rw [hrest, List.cons_append]
        · rw [hstep, hcounted, List.cons_append]
      · refine .inr ⟨?_, ?_⟩
        · rw [List.map_cons, List.mem_cons, not_or]
          exact ⟨Ne.symm hseen, hfresh⟩
        · rw [hstep, hcounted, List.cons_append]

/-! ### A tally -/

/-- The counts list the kinds that occur, each in front of those whose first block comes later,
with the number of their blocks. -/
structure IsTally (kinds : List BlockKind) (counts : List (BlockKind × Nat)) : Prop where
  mem_iff : ∀ kind, kind ∈ counts.map Prod.fst ↔ kind ∈ kinds
  inOrder : (counts.map Prod.fst).Pairwise fun earlier later ↦
    kinds.idxOf earlier < kinds.idxOf later
  count_eq : ∀ entry ∈ counts, entry.2 = kinds.count entry.1

theorem isTally_nil : IsTally [] [] where
  mem_iff := fun _ ↦ Iff.rfl
  inOrder := List.Pairwise.nil
  count_eq := fun _ h ↦ absurd h List.not_mem_nil

namespace IsTally

/-- A kind is not in front of itself. -/
theorem nodup (h : IsTally kinds counts) : (counts.map Prod.fst).Nodup := by
  refine List.Pairwise.imp (fun {earlier later} hlt ↦ ?_) h.inOrder
  rintro rfl
  exact Nat.lt_irrefl _ hlt

theorem mem_kinds (h : IsTally kinds counts) (hentry : entry ∈ counts) : entry.1 ∈ kinds :=
  (h.mem_iff entry.1).mp (List.mem_map_of_mem hentry)

theorem pos (h : IsTally kinds counts) (hentry : entry ∈ counts) : 0 < entry.2 :=
  h.count_eq entry hentry ▸ List.count_pos_iff.mpr (h.mem_kinds hentry)

theorem eq_map (h : IsTally kinds counts) :
    counts = (counts.map Prod.fst).map fun kind ↦ (kind, kinds.count kind) := by
  rw [List.map_map]
  refine (List.map_id counts).symm.trans (List.map_congr_left fun entry hentry ↦ ?_)
  exact Prod.ext rfl (h.count_eq entry hentry)

theorem unique {other : List (BlockKind × Nat)} (h : IsTally kinds counts)
    (hother : IsTally kinds other) : counts = other := by
  have hperm : (counts.map Prod.fst).Perm (other.map Prod.fst) :=
    (List.perm_ext_iff_of_nodup h.nodup hother.nodup).mpr fun kind ↦
      (h.mem_iff kind).trans (hother.mem_iff kind).symm
  have hkinds : counts.map Prod.fst = other.map Prod.fst :=
    hperm.eq_of_pairwise (fun _ _ _ _ hlt hgt ↦ absurd hlt (Nat.lt_asymm hgt)) h.inOrder
      hother.inOrder
  rw [h.eq_map, hkinds, ← hother.eq_map]

theorem sum_eq (h : IsTally kinds counts) : (counts.map Prod.snd).sum = kinds.length := by
  have hperm : (counts.map Prod.fst).Perm kinds.dedup :=
    (List.perm_ext_iff_of_nodup h.nodup kinds.nodup_dedup).mpr fun kind ↦
      (h.mem_iff kind).trans List.mem_dedup.symm
  calc (counts.map Prod.snd).sum
      = ((counts.map Prod.fst).map kinds.count).sum := by
        rw [List.map_map]
        exact congrArg List.sum (List.map_congr_left h.count_eq)
    _ = (kinds.dedup.map kinds.count).sum := (hperm.map kinds.count).sum_eq
    _ = kinds.length := kinds.sum_map_count_dedup_eq_length

/-- The first blocks stand where they stood. -/
theorem inOrder_append (h : IsTally kinds counts) (further : List BlockKind) :
    (counts.map Prod.fst).Pairwise fun earlier later ↦
      (kinds ++ further).idxOf earlier < (kinds ++ further).idxOf later := by
  refine h.inOrder.imp_of_mem fun {earlier later} hearlier hlater hlt ↦ ?_
  rwa [List.idxOf_append_of_mem ((h.mem_iff earlier).mp hearlier),
    List.idxOf_append_of_mem ((h.mem_iff later).mp hlater)]

/-- The numbers of the other kinds stay right. -/
theorem count_eq_of_ne (h : IsTally kinds counts) (hentry : entry ∈ counts)
    (hne : kind ≠ entry.1) : entry.2 = (kinds ++ [kind]).count entry.1 := by
  rw [List.count_append, List.count_singleton, beq_false_of_ne hne, h.count_eq entry hentry]
  rfl

/-- One more block of a kind that is listed. -/
theorem raise {count : Nat} (h : IsTally kinds (before ++ (kind, count) :: after)) :
    IsTally (kinds ++ [kind]) (before ++ (kind, count + 1) :: after) := by
  have hkeys : (before ++ (kind, count + 1) :: after).map Prod.fst =
      (before ++ (kind, count) :: after).map Prod.fst := by
    simp only [List.map_append, List.map_cons]
  have hlisted : (kind, count) ∈ before ++ (kind, count) :: after :=
    List.mem_append_right before List.mem_cons_self
  have hothers : kind ∉ (before ++ after).map Prod.fst := by
    have hnodup := h.nodup
    rw [List.map_append, List.map_cons, List.nodup_middle, ← List.map_append] at hnodup
    exact (List.nodup_cons.mp hnodup).1
  refine ⟨fun other ↦ ?_, hkeys ▸ h.inOrder_append [kind], fun entry hentry ↦ ?_⟩
  · rw [hkeys, h.mem_iff, List.mem_append, List.mem_singleton]
    refine ⟨.inl, fun hother ↦ hother.elim id ?_⟩
    rintro rfl
    exact h.mem_kinds hlisted
  · rcases mem_append_cons_iff.mp hentry with rfl | hother
    · rw [List.count_append, List.count_singleton_self, ← h.count_eq _ hlisted]
    · refine h.count_eq_of_ne (mem_append_cons_iff.mpr (.inr hother)) ?_
      rintro rfl
      exact hothers (List.mem_map_of_mem hother)

/-- The first block of a kind. -/
theorem addLast (h : IsTally kinds counts) (hfresh : kind ∉ counts.map Prod.fst) :
    IsTally (kinds ++ [kind]) (counts ++ [(kind, 1)]) := by
  have hnone : kind ∉ kinds := fun hkind ↦ hfresh ((h.mem_iff kind).mpr hkind)
  refine ⟨fun other ↦ ?_, ?_, fun entry hentry ↦ ?_⟩
  · rw [List.map_append, List.mem_append, List.mem_append, h.mem_iff]
    rfl
  · -- The new kind comes last, as the first block of every other kind is an earlier one.
    rw [List.map_append, List.pairwise_append]
    refine ⟨h.inOrder_append [kind], List.pairwise_singleton _ _, fun other hother last hlast ↦ ?_⟩
    have hmem : other ∈ kinds := (h.mem_iff other).mp hother
    rw [List.mem_singleton.mp hlast, List.idxOf_append_of_mem hmem,
      List.idxOf_append_of_notMem hnone]
    exact Nat.lt_add_right _ (List.idxOf_lt_length_of_mem hmem)
  · rcases List.mem_append.mp hentry with hlisted | hlast
    · refine h.count_eq_of_ne hlisted ?_
      rintro rfl
      exact hfresh (List.mem_map_of_mem hlisted)
    · rw [List.mem_singleton.mp hlast, List.count_append, List.count_eq_zero.mpr hnone,
        List.count_singleton_self]

theorem countKind (h : IsTally kinds counts) (kind : BlockKind) :
    IsTally (kinds ++ [kind]) (countKind kind counts) := by
  rcases countKind_cases kind counts with ⟨before, count, after, rfl, hstep⟩ | ⟨hfresh, hstep⟩
  · exact hstep ▸ h.raise
  · exact hstep ▸ h.addLast hfresh

end IsTally

/-! ### Counts that go on -/

/-- The counts after some more blocks. -/
def countBlocks (counts : List (BlockKind × Nat)) (blocks : List Block) :
    List (BlockKind × Nat) :=
  blocks.foldl (fun counts block ↦ countKind block.kind counts) counts

theorem kindCountsOf_append (first second : List Block) :
    kindCountsOf (first ++ second) = countBlocks (kindCountsOf first) second :=
  List.foldl_append

theorem IsTally.countBlocks (h : IsTally kinds counts) (blocks : List Block) :
    IsTally (kinds ++ blocks.map Block.kind) (countBlocks counts blocks) := by
  induction blocks generalizing kinds counts with
  | nil => simpa [Document.countBlocks] using h
  | cons block rest ih =>
    have hrest := ih (h.countKind block.kind)
    rwa [List.append_assoc] at hrest

theorem isTally_kindCountsOf (blocks : List Block) :
    IsTally (blocks.map Block.kind) (kindCountsOf blocks) :=
  isTally_nil.countBlocks blocks

/-- The kinds that were listed are listed first, in their order, and no number of theirs falls. -/
structure Grows (counts after : List (BlockKind × Nat)) : Prop where
  order : counts.map Prod.fst <+: after.map Prod.fst
  le : ∀ entry ∈ counts, ∃ grown ∈ after, grown.1 = entry.1 ∧ entry.2 ≤ grown.2

namespace Grows

theorem refl (counts : List (BlockKind × Nat)) : Grows counts counts where
  order := List.prefix_rfl
  le := fun entry hentry ↦ ⟨entry, hentry, rfl, Nat.le_refl _⟩

theorem trans {middle : List (BlockKind × Nat)} (hfirst : Grows counts middle)
    (hsecond : Grows middle after) : Grows counts after where
  order := hfirst.order.trans hsecond.order
  le := by
    intro entry hentry
    obtain ⟨grown, hgrown, hkind, hle⟩ := hfirst.le entry hentry
    obtain ⟨last, hlast, hkind', hle'⟩ := hsecond.le grown hgrown
    exact ⟨last, hlast, hkind'.trans hkind, Nat.le_trans hle hle'⟩

end Grows

theorem grows_countKind (kind : BlockKind) (counts : List (BlockKind × Nat)) :
    Grows counts (countKind kind counts) := by
  rcases countKind_cases kind counts with ⟨before, count, after, rfl, hstep⟩ | ⟨-, hstep⟩
  · rw [hstep]
    refine ⟨?_, fun entry hentry ↦ ?_⟩
    · simp only [List.map_append, List.map_cons, List.prefix_rfl]
    · rcases mem_append_cons_iff.mp hentry with rfl | hother
      · exact ⟨(kind, count + 1), mem_append_cons_iff.mpr (.inl rfl), rfl, Nat.le_succ count⟩
      · exact ⟨entry, mem_append_cons_iff.mpr (.inr hother), rfl, Nat.le_refl _⟩
  · rw [hstep]
    refine ⟨?_, fun entry hentry ↦ ⟨entry, List.mem_append_left _ hentry, rfl, Nat.le_refl _⟩⟩
    rw [List.map_append]
    exact List.prefix_append _ _

theorem grows_countBlocks (counts : List (BlockKind × Nat)) (blocks : List Block) :
    Grows counts (countBlocks counts blocks) := by
  induction blocks generalizing counts with
  | nil => exact Grows.refl counts
  | cons block rest ih => exact (grows_countKind block.kind counts).trans (ih _)

/-! ### The counts of a document -/

/-- The counts of a document are the one tally of its blocks. So each kind that occurs is listed
once, under a name of its own, no number is zero, and together they are the number of the blocks.
In a document that goes on with more blocks they have only grown. -/
theorem kindCounts_tally_blocks (doc : Document) :
    (∀ counts, IsTally (doc.blocks.map Block.kind) counts ↔ counts = doc.kindCounts) ∧
    (doc.kindCounts.map fun entry ↦ entry.1.name).Nodup ∧
    (∀ entry ∈ doc.kindCounts, 0 < entry.2) ∧
    (doc.kindCounts.map Prod.snd).sum = doc.blocks.length ∧
    ∀ longer : Document, doc.blocks <+: longer.blocks →
      Grows doc.kindCounts longer.kindCounts := by
  have htally : IsTally (doc.blocks.map Block.kind) doc.kindCounts :=
    isTally_kindCountsOf doc.blocks
  refine ⟨fun counts ↦ ⟨fun h ↦ h.unique htally, ?_⟩, ?_, fun _ ↦ htally.pos, ?_, ?_⟩
  · rintro rfl
    exact htally
  · have hnames := htally.nodup.map BlockKind.name_injective
    rwa [List.map_map] at hnames
  · rw [htally.sum_eq, List.length_map]
  · rintro longer ⟨further, hfurther⟩
    rw [kindCounts, kindCounts, ← hfurther, kindCountsOf_append]
    exact grows_countBlocks _ _

/-- A guide that says something before its first section and goes on in it. -/
def opening : Document where
  title := ['L', 'u', 'z']
  author := []
  blocks := [⟨.paragraph, ['U', 'n', 'o']⟩, ⟨.heading, ['D', 'o', 's']⟩,
    ⟨.paragraph, ['T', 'r', 'e', 's']⟩]

/-- The same guide with a warning and a second section. -/
def continued : Document :=
  { opening with
    blocks := opening.blocks ++ [⟨.warning, ['O', 'j', 'o']⟩, ⟨.heading, ['F', 'i', 'n']⟩] }

/-- The paragraphs stay in front, the sections are two now and the warning comes last. -/
theorem counts_grow_in_continued :
    opening.kindCounts = [(.paragraph, 2), (.heading, 1)] ∧
    continued.kindCounts = [(.paragraph, 2), (.heading, 2), (.warning, 1)] ∧
    opening.blocks <+: continued.blocks ∧ Grows opening.kindCounts continued.kindCounts :=
  have hmore : opening.blocks <+: continued.blocks := List.prefix_append _ _
  ⟨by decide, by decide, hmore, (kindCounts_tally_blocks opening).2.2.2.2 continued hmore⟩

end Document

end StudyGuide
