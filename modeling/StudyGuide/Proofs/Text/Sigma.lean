import StudyGuide.Proofs.Text.Casing

/-!
The lower case of a text inside another. It is the lower case of the text by itself but for the
sigmas, which look at what stands further out (`lowerFrom_append`). A sigma looks no further than
the next character on either side that counts for casing, so the text around it may settle its form
(`settlesSigma`). Where all sigmas of a text are settled within it, every text that holds it holds
its lower case in the lower case (`lowercase_isInfix_of_settled`); where one is not, letters next
to the text change it, and the lower case of the longer text holds that of the text nowhere
(`exists_not_isInfix_of_not_settled`).
-/

set_option autoImplicit false
set_option relaxedAutoImplicit false

namespace StudyGuide.Text

open Casing

/-! ### The next character that counts -/

/-- Whether a sigma looks no further than this character. -/
def counts (c : Char) : Bool := !isCaseIgnorable c

theorem nextIsCased_cons (c : Char) (rest : Text) :
    nextIsCased (c :: rest) = if counts c then isCased c else nextIsCased rest := by
  unfold nextIsCased counts
  by_cases hc : isCaseIgnorable c = true
  · rw [List.dropWhile_cons_of_pos hc, hc]
    rfl
  · rw [List.dropWhile_cons_of_neg hc, eq_false_of_ne_true hc]
    rfl

theorem nextIsCased_append (text more : Text) :
    nextIsCased (text ++ more) =
      if text.any counts then nextIsCased text else nextIsCased more := by
  induction text with
  | nil => rfl
  | cons c rest ih =>
    rw [List.cons_append, nextIsCased_cons, nextIsCased_cons, List.any_cons, ih]
    cases counts c <;> rfl

theorem any_counts_of_nextIsCased {text : Text} (h : nextIsCased text = true) :
    text.any counts = true := by
  by_contra hnone
  have hsame := nextIsCased_append text []
  rw [List.append_nil, if_neg hnone, h] at hsame
  exact Bool.noConfusion hsame

/-! ### Settled sigmas -/

/-- Whether a sigma between two texts has one form, whatever stands further out: a letter follows
it, or what precedes it is no letter, or a letter precedes it and what follows is none. `before`
is kept in reverse. -/
def settlesSigma (before after : Text) : Bool :=
  nextIsCased after || before.any counts && (!nextIsCased before || after.any counts)

theorem endsWord_append {before after : Text} (h : settlesSigma before after = true)
    (outerBefore outerAfter : Text) :
    endsWord (before ++ outerBefore) (after ++ outerAfter) = endsWord before after := by
  unfold settlesSigma at h
  unfold endsWord
  rw [nextIsCased_append, nextIsCased_append]
  by_cases hfollows : nextIsCased after = true
  · rw [if_pos (any_counts_of_nextIsCased hfollows), hfollows, Bool.not_true, Bool.and_false,
      Bool.and_false]
  · rw [eq_false_of_ne_true hfollows, Bool.false_or, Bool.and_eq_true, Bool.or_eq_true,
      Bool.not_eq_true'] at h
    obtain ⟨hcounts, hnone | hafter⟩ := h
    · rw [if_pos hcounts, hnone, Bool.false_and, Bool.false_and]
    · rw [if_pos hcounts, if_pos hafter]

/-- A letter before the text, or one on each side, turns a sigma that is not settled. -/
theorem exists_endsWord_ne {before after : Text} (h : settlesSigma before after = false) :
    ∃ outer ∈ [[], ['a']], endsWord (before ++ ['a']) (after ++ outer) ≠ endsWord before after := by
  unfold settlesSigma at h
  obtain ⟨hafter, hbefore⟩ := Bool.or_eq_false_iff.mp h
  have hletter : nextIsCased ['a'] = true := by decide +kernel
  unfold endsWord
  by_cases hcounts : before.any counts = true
  · rw [hcounts, Bool.true_and, Bool.or_eq_false_iff, Bool.not_eq_false'] at hbefore
    obtain ⟨hcased, hnone⟩ := hbefore
    refine ⟨['a'], by simp, ?_⟩
    rw [nextIsCased_append, nextIsCased_append, hcounts, hnone, hcased, hafter]
    simp [hletter]
  · have hnone : nextIsCased before = false :=
      eq_false_of_ne_true (mt any_counts_of_nextIsCased hcounts)
    refine ⟨[], by simp, ?_⟩
    rw [List.append_nil, nextIsCased_append, if_neg hcounts, hletter, hnone, hafter]
    exact Bool.noConfusion

/-- Every sigma of the text is settled within the text. -/
def SettlesSigmas (text : Text) : Prop :=
  ∀ before after, text = before ++ 'Σ' :: after → settlesSigma before.reverse after = true

/-- The sigmas of the text after `before`, kept in reverse, judged one by one. -/
def settlesFrom (before : Text) : Text → Bool
  | [] => true
  | c :: rest => (c != 'Σ' || settlesSigma before rest) && settlesFrom (c :: before) rest

theorem settlesFrom_iff (before text : Text) :
    settlesFrom before text = true ↔
      ∀ passed after, text = passed ++ 'Σ' :: after →
        settlesSigma (passed.reverse ++ before) after = true := by
  induction text generalizing before with
  | nil => simp [settlesFrom]
  | cons c rest ih =>
    rw [settlesFrom, Bool.and_eq_true, Bool.or_eq_true, bne_iff_ne, ih]
    constructor
    · rintro ⟨hhere, hlater⟩ passed after hsplit
      rcases List.cons_eq_append_iff.mp hsplit with ⟨rfl, hcons⟩ | ⟨more, rfl, hmore⟩
      · obtain ⟨rfl, rfl⟩ := List.cons.inj hcons
        exact hhere.resolve_left fun hne ↦ hne rfl
      · rw [List.reverse_cons, List.append_assoc, List.singleton_append]
        exact hlater more after hmore
    · intro h
      refine ⟨or_iff_not_imp_left.mpr fun hsigma ↦ ?_, fun passed after hsplit ↦ ?_⟩
      · rw [ne_eq, not_not] at hsigma
        exact h [] rest (by rw [hsigma, List.nil_append])
      · have hlater := h (c :: passed) after (by rw [hsplit, List.cons_append])
        rwa [List.reverse_cons, List.append_assoc, List.singleton_append] at hlater

instance (text : Text) : Decidable (SettlesSigmas text) :=
  decidable_of_iff (settlesFrom [] text = true) (by simp [settlesFrom_iff, SettlesSigmas])

/-! ### Lower case in a context -/

/-- The lower case of a text that stands between `before`, kept in reverse, and `after`. -/
def lowerBetween (before after : Text) : Text → Text
  | [] => []
  | c :: rest =>
    (if c = 'Σ' then [if endsWord before (rest ++ after) then 'ς' else 'σ'] else lowerChar c) ++
      lowerBetween (c :: before) after rest

theorem lowerBetween_nil (before text : Text) :
    lowerBetween before [] text = lowerFrom before text := by
  induction text generalizing before with
  | nil => rfl
  | cons c rest ih => rw [lowerBetween, lowerFrom, List.append_nil, ih]

theorem lowerBetween_append (before after first second : Text) :
    lowerBetween before after (first ++ second) =
      lowerBetween before (second ++ after) first ++
        lowerBetween (first.reverse ++ before) after second := by
  induction first generalizing before with
  | nil => rfl
  | cons c rest ih =>
    rw [List.cons_append, lowerBetween, lowerBetween, ih, List.append_assoc, List.append_assoc,
      List.reverse_cons, List.append_assoc, List.singleton_append]

/-- The lower case of a text that holds another between two texts. -/
theorem lowercase_between (before text after : Text) :
    lowercase (before ++ text ++ after) =
      lowerBetween [] (text ++ after) before ++ lowerBetween before.reverse after text ++
        lowerBetween (before ++ text).reverse [] after := by
  rw [lowercase, ← lowerBetween_nil, lowerBetween_append, lowerBetween_append, List.append_nil,
    List.append_nil, List.append_nil]

/-- What stands around a text neither lengthens nor shortens its lower case, and changes nothing
but the form of its sigmas. -/
theorem map_evenSigma_lowerBetween (before after text : Text) :
    (lowerBetween before after text).map evenSigma = evenLowercase text := by
  induction text generalizing before with
  | nil => rfl
  | cons c rest ih =>
    rw [lowerBetween, List.map_append, ih, evenLowercase, evenLowercase, List.flatMap_cons]
    congr 1
    unfold evenLowerChar
    split_ifs with hsigma hends <;> rfl

theorem length_lowerBetween (before after text : Text) :
    (lowerBetween before after text).length = (evenLowercase text).length := by
  rw [← map_evenSigma_lowerBetween before after, List.length_map]

theorem lowerBetween_of_settled (before : Text) {rest : Text} (outerBefore outerAfter : Text)
    (h : ∀ passed after, rest = passed ++ 'Σ' :: after →
      settlesSigma (passed.reverse ++ before) after = true) :
    lowerBetween (before ++ outerBefore) outerAfter rest = lowerFrom before rest := by
  induction rest generalizing before with
  | nil => rfl
  | cons c rest ih =>
    have hrest : lowerBetween (c :: (before ++ outerBefore)) outerAfter rest =
        lowerFrom (c :: before) rest := by
      refine ih (c :: before) fun passed after hsplit ↦ ?_
      have hsettled := h (c :: passed) after (by rw [hsplit, List.cons_append])
      rwa [List.reverse_cons, List.append_assoc, List.singleton_append] at hsettled
    rw [lowerBetween, lowerFrom, hrest]
    congr 1
    split_ifs with hsigma hleft hright hright
    · rfl
    · have hsame := endsWord_append (h [] rest (by rw [hsigma, List.nil_append])) outerBefore
        outerAfter
      exact absurd (hsame.symm.trans hleft) hright
    · have hsame := endsWord_append (h [] rest (by rw [hsigma, List.nil_append])) outerBefore
        outerAfter
      exact absurd (hsame.trans hright) hleft
    · rfl
    · rfl

/-- The lower case of a text whose sigmas are settled is in that of every text that holds it. -/
theorem lowercase_isInfix_of_settled {text longer : Text} (h : SettlesSigmas text)
    (hheld : text <:+: longer) : lowercase text <:+: lowercase longer := by
  obtain ⟨before, after, rfl⟩ := hheld
  have hsame : lowerBetween before.reverse after text = lowercase text := by
    have hsettled := lowerBetween_of_settled [] before.reverse after
      fun passed rest hsplit ↦ by
        rw [List.append_nil]
        exact h passed rest hsplit
    exact hsettled
  rw [lowercase_between, hsame]
  exact ⟨_, _, rfl⟩

/-! ### Sigmas that are not settled -/

/-- A sigma that is not settled is written otherwise next to the right letters. -/
theorem exists_lowerBetween_ne {text : Text} (h : ¬SettlesSigmas text) :
    ∃ outer ∈ [[], ['a']], lowerBetween ['a'] outer text ≠ lowercase text := by
  unfold SettlesSigmas at h
  push Not at h
  obtain ⟨before, after, rfl, hnot⟩ := h
  obtain ⟨outer, houter, hne⟩ := exists_endsWord_ne (eq_false_of_ne_true hnot)
  refine ⟨outer, houter, fun hsame ↦ hne ?_⟩
  rw [lowercase, ← lowerBetween_nil, lowerBetween_append, lowerBetween_append] at hsame
  obtain ⟨-, hsigma⟩ := List.append_inj hsame (by rw [length_lowerBetween, length_lowerBetween])
  rw [lowerBetween, lowerBetween, if_pos rfl, if_pos rfl, List.append_nil, List.append_nil,
    List.singleton_append, List.singleton_append] at hsigma
  have hform := (List.cons.inj hsigma).1
  split_ifs at hform with hlonger hshorter hshorter
  · rw [hlonger, hshorter]
  · exact absurd hform (by decide)
  · exact absurd hform (by decide)
  · rw [eq_false_of_ne_true hlonger, eq_false_of_ne_true hshorter]

/-- A text that goes on as itself one place later is made of one character. -/
theorem eq_of_mem_of_cons_append {c d : Char} {text first second : Text}
    (h : c :: (text ++ first) = text ++ second) (hd : d ∈ text) : d = c := by
  induction text generalizing c with
  | nil => exact absurd hd List.not_mem_nil
  | cons e rest ih =>
    rw [List.cons_append, List.cons_append] at h
    obtain ⟨rfl, hrest⟩ := List.cons.inj h
    rcases List.mem_cons.mp hd with rfl | hmem
    · rfl
    · exact ih hrest hmem

/-- So is one that goes on as itself one place earlier. -/
theorem eq_of_mem_of_append_singleton {c d e : Char} {text : Text} (h : e :: text = text ++ [c])
    (hd : d ∈ text) : d = c := by
  have hreversed : c :: (text.reverse ++ []) = text.reverse ++ [e] := by
    simpa using (congrArg List.reverse h).symm
  exact eq_of_mem_of_cons_append hreversed (List.mem_reverse.mpr hd)

/-- Two texts of one length, equal but for the form of their sigmas, of which they have one: if the
one is found between letters where the other stands, it stands there itself. -/
theorem eq_of_isInfix_between_letters {found text : Text} {outer : Text}
    (houter : outer ∈ [[], ['a']]) (heven : found.map evenSigma = text.map evenSigma)
    (hsigma : 'σ' ∈ text.map evenSigma) (hheld : found <:+: 'a' :: (text ++ outer)) :
    found = text := by
  obtain ⟨before, after, hsplit⟩ := hheld
  have hlength : found.length = text.length := by
    rw [← List.length_map (f := evenSigma), heven, List.length_map]
  have hshort : outer.length ≤ 1 := by
    rcases List.mem_pair.mp houter with rfl | rfl <;> decide
  have hsum := congrArg List.length hsplit
  simp only [List.length_append, List.length_cons] at hsum
  have hmapped := congrArg (List.map evenSigma) hsplit
  simp only [List.map_append, List.map_cons, heven] at hmapped
  have hletter : evenSigma 'a' = 'a' := by decide
  rw [hletter] at hmapped
  cases before with
  | nil =>
    -- Found one place too early, the text would be all letters a.
    exact absurd (eq_of_mem_of_cons_append hmapped.symm hsigma) (by decide)
  | cons first more =>
    cases more with
    | nil =>
      rw [List.append_assoc, List.singleton_append] at hsplit
      exact (List.append_inj (List.cons.inj hsplit).2 hlength).1
    | cons second rest =>
      -- Found one place too late, it would be so too.
      have hfits : rest = [] ∧ after = [] ∧ outer.length = 1 := by
        simp only [List.length_cons] at hsum
        refine ⟨List.length_eq_zero_iff.mp (by omega), List.length_eq_zero_iff.mp (by omega), ?_⟩
        omega
      obtain ⟨rfl, rfl, hone⟩ := hfits
      have hletters : outer = ['a'] := by
        rcases List.mem_pair.mp houter with rfl | rfl
        · contradiction
        · rfl
      have hlate : evenSigma second :: text.map evenSigma = text.map evenSigma ++ ['a'] := by
        rw [hletters] at hmapped
        simpa [hletter] using (List.cons.inj hmapped).2
      exact absurd (eq_of_mem_of_append_singleton hlate hsigma) (by decide)

theorem sigma_mem_evenLowercase {text : Text} (h : 'Σ' ∈ text) : 'σ' ∈ evenLowercase text :=
  List.mem_flatMap.mpr ⟨'Σ', h, by decide⟩

/-- Next to the right letters the lower case of a text whose sigmas are not settled is not found
any more. -/
theorem exists_not_isInfix_of_not_settled {text : Text} (h : ¬SettlesSigmas text) :
    ∃ outer ∈ [[], ['a']], ¬lowercase text <:+: lowercase ('a' :: (text ++ outer)) := by
  obtain ⟨outer, houter, hne⟩ := exists_lowerBetween_ne h
  refine ⟨outer, houter, fun hheld ↦ hne ?_⟩
  have houter_lower (before : Text) : lowerBetween before [] outer = outer := by
    rcases List.mem_pair.mp houter with rfl | rfl <;> rfl
  have hlower : lowercase ('a' :: (text ++ outer)) =
      'a' :: (lowerBetween ['a'] outer text ++ outer) := by
    have hbetween := lowercase_between ['a'] text outer
    rw [houter_lower] at hbetween
    exact hbetween
  have heven : (lowercase text).map evenSigma = (lowerBetween ['a'] outer text).map evenSigma := by
    rw [map_evenSigma_lowercase, map_evenSigma_lowerBetween]
  have hsigma : 'Σ' ∈ text := by
    unfold SettlesSigmas at h
    push Not at h
    obtain ⟨before, after, rfl, -⟩ := h
    simp
  rw [hlower] at hheld
  refine (eq_of_isInfix_between_letters houter heven ?_ hheld).symm
  rw [map_evenSigma_lowerBetween]
  exact sigma_mem_evenLowercase hsigma

end StudyGuide.Text
