import Mathlib.Data.List.Forall2
import Mathlib.Data.List.Perm.Basic
import StudyGuide.Arrivals

/-!
The order in which reads end leaves no trace. Whatever the choices, what has arrived is a
permutation of the inputs in hand (`order_perm`), positions tell arrivals apart, and so sorting by
position gives the inputs as they were asked for (`sorted_all`). Collecting them is then reading
the inputs one after the other (`collect_all`), and it succeeds exactly when every input was read
(`exists_collect_all_eq_ok_iff`).
-/

set_option autoImplicit false
set_option relaxedAutoImplicit false

namespace StudyGuide

/-! ### Lists of outcomes -/

section Outcomes

variable {ε α β : Type} (read : α → Except ε β)

theorem mapM_cons_eq (a : α) (rest : List α) :
    (a :: rest).mapM read =
      match read a with
      | .error e => .error e
      | .ok b => match rest.mapM read with
        | .error e => .error e
        | .ok bs => .ok (b :: bs) := by
  rw [List.mapM_cons]
  cases read a with
  | error e => rfl
  | ok b => cases hrest : rest.mapM read <;> rfl

/-- Everything is read exactly when each item is, and what is read stands in the same order. -/
theorem mapM_eq_ok_iff (items : List α) (values : List β) :
    items.mapM read = .ok values ↔ List.Forall₂ (fun a b ↦ read a = .ok b) items values := by
  induction items generalizing values with
  | nil =>
    rw [List.forall₂_nil_left_iff]
    constructor
    · intro h
      exact (Except.ok.inj h).symm
    · rintro rfl
      rfl
  | cons a rest ih =>
    rw [mapM_cons_eq, List.forall₂_cons_left_iff]
    constructor
    · intro h
      cases ha : read a with
      | error e => simp [ha] at h
      | ok b =>
        cases hrest : rest.mapM read with
        | error e => simp [ha, hrest] at h
        | ok bs =>
          simp only [ha, hrest, Except.ok.injEq] at h
          exact ⟨b, bs, rfl, (ih bs).mp hrest, h.symm⟩
    · rintro ⟨b, bs, ha, hrest, rfl⟩
      rw [ha, (ih bs).mpr hrest]

theorem exists_mapM_eq_ok_iff (items : List α) :
    (∃ values, items.mapM read = .ok values) ↔ ∀ a ∈ items, ∃ b, read a = .ok b := by
  induction items with
  | nil => exact ⟨fun _ a ha ↦ absurd ha List.not_mem_nil, fun _ ↦ ⟨[], rfl⟩⟩
  | cons a rest ih =>
    rw [List.forall_mem_cons, ← ih]
    constructor
    · rintro ⟨values, hvalues⟩
      obtain ⟨b, bs, ha, hrest, -⟩ :=
        List.forall₂_cons_left_iff.mp ((mapM_eq_ok_iff read _ _).mp hvalues)
      exact ⟨⟨b, ha⟩, bs, (mapM_eq_ok_iff read _ _).mpr hrest⟩
    · rintro ⟨⟨b, ha⟩, bs, hrest⟩
      exact ⟨b :: bs, by rw [mapM_cons_eq, ha, hrest]⟩

/-- The first item that cannot be read decides, whatever comes after it. -/
theorem mapM_append_cons_eq_error {before after : List α} {a : α} {e : ε}
    (hbefore : ∀ item ∈ before, ∃ b, read item = .ok b) (ha : read a = .error e) :
    (before ++ a :: after).mapM read = .error e := by
  induction before with
  | nil =>
    rw [List.nil_append, mapM_cons_eq, ha]
  | cons first rest ih =>
    obtain ⟨⟨b, hb⟩, hrest⟩ := List.forall_mem_cons.mp hbefore
    rw [List.cons_append, mapM_cons_eq, hb, ih hrest]

/-- An error of the whole is an error of one of the items. -/
theorem exists_of_mapM_eq_error {items : List α} {e : ε} (h : items.mapM read = .error e) :
    ∃ a ∈ items, read a = .error e := by
  induction items with
  | nil => contradiction
  | cons a rest ih =>
    rw [mapM_cons_eq] at h
    cases ha : read a with
    | error other =>
      rw [ha] at h
      obtain rfl := Except.error.inj h
      exact ⟨a, List.mem_cons_self, ha⟩
    | ok b =>
      cases hrest : rest.mapM read with
      | error other =>
        rw [ha, hrest] at h
        obtain rfl := Except.error.inj h
        obtain ⟨c, hc, hread⟩ := ih hrest
        exact ⟨c, List.mem_cons_of_mem a hc, hread⟩
      | ok bs =>
        rw [ha, hrest] at h
        contradiction

end Outcomes

namespace Arrival

/-- Things end in some order, none of them twice and none never. -/
theorem order_perm {α : Type} (limit : Nat) (choices : List Nat) (waiting : List α) :
    (order limit choices waiting).Perm waiting := by
  induction choices generalizing waiting with
  | nil => exact .refl waiting
  | cons choice choices ih =>
    unfold order
    dsimp only
    cases hnext : waiting[choice % min limit waiting.length]? with
    | none => exact .refl waiting
    | some next =>
      obtain ⟨hplace, rfl⟩ := List.getElem?_eq_some_iff.mp hnext
      exact ((ih _).cons _).trans (List.getElem_cons_eraseIdx_perm hplace)

/-- With room for all at once, things may end in any order. -/
theorem exists_order_eq_of_perm {α : Type} {limit : Nat} {done waiting : List α}
    (hperm : done.Perm waiting) (hlimit : waiting.length ≤ limit) :
    ∃ choices, order limit choices waiting = done := by
  induction done generalizing waiting with
  | nil =>
    rw [← List.nil_perm.mp hperm]
    exact ⟨[], rfl⟩
  | cons next done ih =>
    obtain ⟨place, hplace, rfl⟩ := List.getElem_of_mem (hperm.subset List.mem_cons_self)
    have hrest : done.Perm (waiting.eraseIdx place) :=
      (hperm.trans (List.getElem_cons_eraseIdx_perm hplace).symm).cons_inv
    have hlength : (waiting.eraseIdx place).length ≤ limit :=
      Nat.le_trans (List.length_eraseIdx_le waiting place) hlimit
    obtain ⟨choices, hchoices⟩ := ih hrest hlength
    refine ⟨place :: choices, ?_⟩
    unfold order
    dsimp only
    rw [Nat.min_eq_right hlimit, Nat.mod_eq_of_lt hplace, List.getElem?_eq_getElem hplace]
    dsimp only
    rw [hchoices]

/-- What arrives of the inputs, in their order. -/
def inOrder (resolve : Nat → Text → Except GuideError Media) (inputs : List Text) :
    List Arrival :=
  inputs.zipIdx.map fun (source, index) ↦ { index, outcome := resolve index source }

variable (resolve : Nat → Text → Except GuideError Media)

theorem mem_inOrder_iff (inputs : List Text) (arrival : Arrival) :
    arrival ∈ inOrder resolve inputs ↔
      ∃ source, inputs[arrival.index]? = some source ∧
        arrival.outcome = resolve arrival.index source := by
  rw [inOrder, List.mem_map]
  constructor
  · rintro ⟨⟨source, index⟩, hmem, rfl⟩
    exact ⟨source, List.mem_zipIdx_iff_getElem?.mp hmem, rfl⟩
  · rintro ⟨source, hsource, houtcome⟩
    exact ⟨(source, arrival.index), List.mem_zipIdx_iff_getElem?.mpr hsource,
      congrArg (Arrival.mk arrival.index) houtcome.symm⟩

theorem pairwise_inOrder (inputs : List Text) :
    (inOrder resolve inputs).Pairwise fun a b ↦ a.index < b.index := by
  have hindices : (inputs.zipIdx.map Prod.snd).Pairwise (· < ·) := by
    rw [List.zipIdx_map_snd]
    exact List.pairwise_lt_range'
  rw [inOrder, List.pairwise_map]
  exact List.pairwise_map.mp hindices

theorem all_perm_inOrder (limit : Nat) (choices : List Nat) (inputs : List Text) :
    (all resolve limit choices inputs).Perm (inOrder resolve inputs) :=
  (order_perm limit choices inputs.zipIdx).map _

/-- Two arrivals of one run with the same position are the same. -/
theorem eq_of_index_eq {inputs : List Text} {first second : Arrival}
    (hfirst : first ∈ inOrder resolve inputs) (hsecond : second ∈ inOrder resolve inputs)
    (hindex : first.index = second.index) : first = second := by
  obtain ⟨source, hsource, houtcome⟩ := (mem_inOrder_iff resolve inputs first).mp hfirst
  obtain ⟨other, hother, hotherOutcome⟩ := (mem_inOrder_iff resolve inputs second).mp hsecond
  rw [← hindex, hsource] at hother
  obtain rfl := Option.some.inj hother
  have hsame : first.outcome = second.outcome := by rw [houtcome, hotherOutcome, hindex]
  cases first
  cases second
  rw [Arrival.mk.injEq]
  exact ⟨hindex, hsame⟩

/-- Sorted by position, arrivals stand in the order of the inputs. -/
theorem sorted_all (limit : Nat) (choices : List Nat) (inputs : List Text) :
    sorted (all resolve limit choices inputs) = inOrder resolve inputs := by
  have hperm : (sorted (all resolve limit choices inputs)).Perm (inOrder resolve inputs) :=
    (List.mergeSort_perm _ _).trans (all_perm_inOrder resolve limit choices inputs)
  have hsorted : (sorted (all resolve limit choices inputs)).Pairwise
      fun a b ↦ decide (a.index ≤ b.index) = true :=
    List.pairwise_mergeSort (fun a b c ↦ by simpa using Nat.le_trans)
      (fun a b ↦ by simpa using Nat.le_total _ _) _
  have hsorted : (sorted (all resolve limit choices inputs)).Pairwise
      fun a b ↦ a.index ≤ b.index := hsorted.imp fun h ↦ of_decide_eq_true h
  have hinOrder : (inOrder resolve inputs).Pairwise fun a b ↦ a.index ≤ b.index :=
    (pairwise_inOrder resolve inputs).imp Nat.le_of_lt
  refine hperm.eq_of_pairwise (fun a b ha hb hle hge ↦ ?_) hsorted hinOrder
  exact eq_of_index_eq resolve (hperm.subset ha) hb (Nat.le_antisymm hle hge)

/-- To collect what has arrived is to read the inputs one after the other. -/
theorem collect_all (limit : Nat) (choices : List Nat) (inputs : List Text) :
    collect (all resolve limit choices inputs) =
      inputs.zipIdx.mapM fun (source, index) ↦ resolve index source := by
  rw [collect, sorted_all, inOrder, List.mapM_map]
  rfl

theorem exists_collect_all_eq_ok_iff (limit : Nat) (choices : List Nat) (inputs : List Text) :
    (∃ media, collect (all resolve limit choices inputs) = .ok media) ↔
      ∀ index source, inputs[index]? = some source → ∃ media, resolve index source = .ok media := by
  rw [collect_all, exists_mapM_eq_ok_iff]
  constructor
  · intro h index source hsource
    exact h (source, index) (List.mem_zipIdx_iff_getElem?.mpr hsource)
  · rintro h ⟨source, index⟩ hmem
    exact h index source (List.mem_zipIdx_iff_getElem?.mp hmem)

/-- As many contents are collected as there are inputs. -/
theorem length_of_collect_all {limit : Nat} {choices : List Nat} {inputs : List Text}
    {media : List Media} (h : collect (all resolve limit choices inputs) = .ok media) :
    media.length = inputs.length := by
  rw [collect_all] at h
  rw [← ((mapM_eq_ok_iff _ _ _).mp h).length_eq, List.length_zipIdx]

end Arrival

end StudyGuide
