import Listfile.Log
import Mathlib.Data.List.Forall2
import Mathlib.Data.List.Nodup

/-!
Passes over lists that may drop an element or stop, as relations between what goes in and what comes out, and passes
that do not depend on the order.
-/

namespace Listfile

variable {α β γ ε : Type}

theorem filterMap_congr {f g : α → Option β} {l : List α} (same : ∀ x ∈ l, f x = g x) :
    l.filterMap f = l.filterMap g := by
  induction l with
  | nil => rfl
  | cons x rest ih =>
    rw [List.filterMap_cons, List.filterMap_cons, same x List.mem_cons_self,
      ih fun y member => same y (List.mem_cons_of_mem _ member)]

theorem map_filterMap_eq_map_filter {f : α → Option β} {keep : α → Bool} {g : β → γ} {h : α → γ}
    {l : List α} (each : ∀ x ∈ l, (f x).map g = if keep x then some (h x) else none) :
    (l.filterMap f).map g = (l.filter keep).map h := by
  induction l with
  | nil => rfl
  | cons x rest ih =>
    have head := each x List.mem_cons_self
    have tail := ih fun y member => each y (List.mem_cons_of_mem _ member)
    rw [List.filterMap_cons, List.filter_cons]
    split <;> simp_all

theorem filterMap_eq_map_of_some {f : α → Option β} {g : α → β} {l : List α}
    (each : ∀ x ∈ l, f x = some (g x)) : l.filterMap f = l.map g := by
  rw [filterMap_congr each]
  exact congrFun List.filterMap_eq_map l

theorem map_filterMap_sublist {f : α → Option β} {g : β → γ} {h : α → γ}
    (each : ∀ x y, f x = some y → g y = h x) (l : List α) :
    ((l.filterMap f).map g).Sublist (l.map h) := by
  induction l with
  | nil => simp
  | cons x rest ih =>
    rw [List.filterMap_cons]
    split
    next => exact ih.cons _
    next y kept =>
      rw [List.map_cons, List.map_cons, each x y kept]
      exact ih.cons_cons _

theorem bind_eq_ok_iff {first : Except ε α} {next : α → Except ε β} {value : β} :
    first.bind next = .ok value ↔ ∃ middle, first = .ok middle ∧ next middle = .ok value := by
  cases first <;> simp [Except.bind]

theorem bind_eq_error_iff {first : Except ε α} {next : α → Except ε β} {error : ε} :
    first.bind next = .error error ↔
      first = .error error ∨ ∃ middle, first = .ok middle ∧ next middle = .error error := by
  cases first <;> simp [Except.bind]

theorem mapM_eq_error_iff {f : α → Except ε β} {l : List α} {error : ε} : l.mapM f = .error error ↔
    ∃ before x after, l = before ++ x :: after ∧ (∀ y ∈ before, ∃ value, f y = .ok value) ∧ f x = .error error := by
  induction l with
  | nil => simp [pure, Except.pure]
  | cons x rest ih =>
    rw [List.mapM_cons]
    show (f x).bind (fun head => (rest.mapM f).bind fun tail => .ok (head :: tail)) = _ ↔ _
    simp only [bind_eq_error_iff, ih, reduceCtorEq, and_false, exists_false, or_false]
    constructor
    · intro stopped
      rcases stopped with first | ⟨value, first, before, y, after, rfl, passed, failed⟩
      · exact ⟨[], x, rest, rfl, by simp, first⟩
      · exact ⟨x :: before, y, after, rfl, List.forall_mem_cons.mpr ⟨⟨value, first⟩, passed⟩, failed⟩
    · intro stopped
      rcases stopped with ⟨before, y, after, split, passed, failed⟩
      cases before with
      | nil =>
        obtain ⟨rfl, -⟩ := List.cons.inj split
        exact .inl failed
      | cons head before =>
        obtain ⟨rfl, rfl⟩ := List.cons.inj split
        obtain ⟨⟨value, first⟩, passed⟩ := List.forall_mem_cons.mp passed
        exact .inr ⟨value, first, before, y, after, rfl, passed, failed⟩

theorem exists_mem_of_mapM_eq_error {f : α → Except ε β} {l : List α} {error : ε} (stopped : l.mapM f = .error error) :
    ∃ x ∈ l, f x = .error error := by
  obtain ⟨before, x, after, rfl, -, failed⟩ := mapM_eq_error_iff.mp stopped
  exact ⟨x, by simp, failed⟩

theorem mapM_eq_ok_iff {f : α → Except ε β} {l : List α} {values : List β} :
    l.mapM f = .ok values ↔ List.Forall₂ (fun x value => f x = .ok value) l values := by
  induction l generalizing values with
  | nil => simp [pure, Except.pure, eq_comm]
  | cons x rest ih =>
    rw [List.mapM_cons]
    show (f x).bind (fun head => (rest.mapM f).bind fun tail => .ok (head :: tail)) = _ ↔ _
    simp only [bind_eq_ok_iff, ih, Except.ok.injEq, List.forall₂_cons_left_iff]
    constructor
    · intro given
      rcases given with ⟨head, first, tail, others, rfl⟩
      exact ⟨head, tail, first, others, rfl⟩
    · intro given
      rcases given with ⟨head, tail, first, others, rfl⟩
      exact ⟨head, first, tail, others, rfl⟩

theorem mapM_eq_some_iff {f : α → Option β} {l : List α} {values : List β} :
    l.mapM f = some values ↔ List.Forall₂ (fun x value => f x = some value) l values := by
  induction l generalizing values with
  | nil => simp [eq_comm]
  | cons x rest ih =>
    simp only [List.mapM_cons, Option.bind_eq_bind, Option.bind_eq_some_iff, ih, Option.pure_def,
      Option.some.injEq, List.forall₂_cons_left_iff]
    constructor
    · intro given
      rcases given with ⟨head, first, tail, others, rfl⟩
      exact ⟨head, tail, first, others, rfl⟩
    · intro given
      rcases given with ⟨head, tail, first, others, rfl⟩
      exact ⟨head, first, tail, others, rfl⟩

section

variable {f : α → Option β} {before after : List α} {x y : α} {values : List β}

theorem exists_of_mapM_middle_eq_some (read : (before ++ x :: after).mapM f = some values) :
    ∃ value, f x = some value := by
  simp only [List.mapM_append, List.mapM_cons, Option.bind_eq_bind, Option.bind_eq_some_iff] at read
  obtain ⟨-, -, rest, ⟨value, found, -⟩, -⟩ := read
  exact ⟨value, found⟩

theorem mapM_middle_of_eq_some (kept : ∀ value, f x = some value → f y = some value)
    (read : (before ++ x :: after).mapM f = some values) : (before ++ y :: after).mapM f = some values := by
  obtain ⟨value, found⟩ := exists_of_mapM_middle_eq_some read
  rw [← read]
  simp only [List.mapM_append, List.mapM_cons, found, kept value found]

theorem mapM_middle_eq_none (missing : f y = none) : (before ++ y :: after).mapM f = none := by
  apply Option.eq_none_iff_forall_ne_some.mpr
  intro values read
  obtain ⟨value, found⟩ := exists_of_mapM_middle_eq_some read
  exact nomatch missing.symm.trans found

end

theorem forall₂_eq_map_iff {f : α → β} {l : List α} {values : List β} :
    List.Forall₂ (fun x value => value = f x) l values ↔ values = l.map f := by
  simp only [eq_comm (b := f _)]
  rw [← List.forall₂_map_left_iff, List.forall₂_eq_eq_eq, eq_comm]

theorem forall₂_eq_some_iff {f : α → Option β} {l : List α} {values : List β} :
    List.Forall₂ (fun x value => f x = some value) l values ↔
      (∀ x ∈ l, ∃ value, f x = some value) ∧ values = l.filterMap f := by
  induction l generalizing values with
  | nil => simp
  | cons x rest ih =>
    simp only [List.forall₂_cons_left_iff, ih, List.forall_mem_cons, List.filterMap_cons]
    constructor
    · intro given
      rcases given with ⟨value, tail, head, ⟨others, rfl⟩, rfl⟩
      exact ⟨⟨⟨value, head⟩, others⟩, by simp [head]⟩
    · intro given
      rcases given with ⟨⟨⟨value, head⟩, others⟩, rfl⟩
      exact ⟨value, _, head, ⟨others, rfl⟩, by simp [head]⟩

theorem exists_forall₂_iff {related : α → β → Prop} {l : List α} :
    (∃ values, List.Forall₂ related l values) ↔ ∀ x ∈ l, ∃ value, related x value := by
  induction l with
  | nil => simp
  | cons x rest ih =>
    rw [List.forall_mem_cons, ← ih]
    constructor
    · intro given
      rcases given with ⟨_, all⟩
      obtain ⟨value, tail, head, others, -⟩ := List.forall₂_cons_left_iff.mp all
      exact ⟨⟨value, head⟩, tail, others⟩
    · intro given
      rcases given with ⟨⟨_, head⟩, _, tail⟩
      exact ⟨_, .cons head tail⟩

theorem exists_mem_of_forall₂ {related : α → β → Prop} {l : List α} {values : List β}
    (all : List.Forall₂ related l values) {x : α} (member : x ∈ l) : ∃ value ∈ values, related x value := by
  induction all with
  | nil => simp at member
  | cons head _ ih =>
    rcases List.mem_cons.mp member with rfl | member
    · exact ⟨_, List.mem_cons_self, head⟩
    · obtain ⟨value, inside, relation⟩ := ih member
      exact ⟨value, List.mem_cons_of_mem _ inside, relation⟩

theorem forall₂_comp_iff {first : α → β → Prop} {second : β → γ → Prop} {l : List α} {out : List γ} :
    (∃ middle, List.Forall₂ first l middle ∧ List.Forall₂ second middle out) ↔
      List.Forall₂ (fun x z => ∃ y, first x y ∧ second y z) l out := by
  induction l generalizing out with
  | nil => simp
  | cons x rest ih =>
    simp only [List.forall₂_cons_left_iff, ← ih]
    constructor
    · intro given
      rcases given with ⟨_, ⟨y, ys, head, tail, rfl⟩, all⟩
      obtain ⟨z, zs, related, others, rfl⟩ := List.forall₂_cons_left_iff.mp all
      exact ⟨z, zs, ⟨y, head, related⟩, ⟨ys, tail, others⟩, rfl⟩
    · intro given
      rcases given with ⟨z, zs, ⟨y, head, related⟩, ⟨ys, tail, others⟩, rfl⟩
      exact ⟨y :: ys, ⟨y, ys, head, tail, rfl⟩, .cons related others⟩

theorem forall₂_filter_iff {keep : α → Bool} {related : α → β → Prop} {l : List α} {out : List β} :
    (∃ outcomes, List.Forall₂ (fun x outcome => if keep x then ∃ y, outcome = some y ∧ related x y
        else outcome = none) l outcomes ∧ outcomes.filterMap id = out) ↔
      List.Forall₂ related (l.filter keep) out := by
  induction l generalizing out with
  | nil => simp
  | cons x rest ih =>
    simp only [List.forall₂_cons_left_iff, List.filter_cons]
    split
    next kept =>
      simp only [List.forall₂_cons_left_iff, ← ih]
      constructor
      · intro given
        rcases given with ⟨_, ⟨_, outcomes, ⟨y, rfl, head⟩, tail, rfl⟩, rfl⟩
        exact ⟨y, _, head, ⟨outcomes, tail, rfl⟩, rfl⟩
      · intro given
        rcases given with ⟨y, _, head, ⟨outcomes, tail, rfl⟩, rfl⟩
        exact ⟨_, ⟨some y, outcomes, ⟨y, rfl, head⟩, tail, rfl⟩, rfl⟩
    next dropped =>
      rw [← ih]
      constructor
      · intro given
        rcases given with ⟨_, ⟨_, outcomes, rfl, tail, rfl⟩, rfl⟩
        exact ⟨outcomes, tail, rfl⟩
      · intro given
        rcases given with ⟨outcomes, tail, rfl⟩
        exact ⟨_, ⟨none, outcomes, rfl, tail, rfl⟩, rfl⟩

theorem forall₂_filter_filterMap {keep : α → Bool} {related : α → β → Prop} {f : α → Option β} {l : List α}
    (each : ∀ x ∈ l, if keep x then ∃ y, f x = some y ∧ related x y else f x = none) :
    List.Forall₂ related (l.filter keep) (l.filterMap f) := by
  refine forall₂_filter_iff.mp ⟨l.map f, ?_, by simp [List.filterMap_map]⟩
  rw [List.forall₂_map_right_iff, List.forall₂_same]
  exact each

/-- Two passes that label each result like its element, and differ on the elements of one label only, agree on all
results with other labels. -/
theorem filter_filterMap_congr {δ : Type} [DecidableEq δ] {f g : α → Option β} {element : α → δ} {label : β → δ}
    {excluded : δ} {l : List α} (left : ∀ x y, f x = some y → label y = element x)
    (right : ∀ x y, g x = some y → label y = element x) (same : ∀ x, element x ≠ excluded → f x = g x) :
    (l.filterMap f).filter (label · ≠ excluded) = (l.filterMap g).filter (label · ≠ excluded) := by
  rw [List.filter_filterMap, List.filter_filterMap]
  refine filterMap_congr fun x _ => ?_
  by_cases labelled : element x = excluded
  · have dropped {h : α → Option β} (labels : ∀ x y, h x = some y → label y = element x) :
        (h x).filter (fun y => decide (label y ≠ excluded)) = none :=
      Option.filter_eq_none_iff.mpr fun y given => by simp [labels x y given, labelled]
    rw [dropped left, dropped right]
  · rw [same x labelled]

/-! Passes that find something at one element only. -/

theorem find?_perm {keep : α → Bool} {l others : List α} (perm : l.Perm others)
    (single : ∀ x ∈ l, ∀ y ∈ l, keep x = true → keep y = true → x = y) : others.find? keep = l.find? keep := by
  cases found : l.find? keep with
  | none =>
    apply List.find?_eq_none.mpr
    intro x member
    exact List.find?_eq_none.mp found x (perm.mem_iff.mpr member)
  | some x =>
    have member := List.mem_of_find?_eq_some found
    have kept := List.find?_some found
    have some : (others.find? keep).isSome = true := List.find?_isSome.mpr ⟨x, perm.mem_iff.mp member, kept⟩
    obtain ⟨y, found'⟩ := Option.isSome_iff_exists.mp some
    have member' := perm.mem_iff.mpr (List.mem_of_find?_eq_some found')
    rw [found', single x member y member' kept (List.find?_some found')]

theorem flatMap_of_key [DecidableEq β] {key : α → β} {l : List α} (nodup : (l.map key).Nodup) {x : α} (member : x ∈ l)
    (f : α → List γ) : l.flatMap (fun y => if key y = key x then f y else []) = f x := by
  induction l with
  | nil => exact absurd member List.not_mem_nil
  | cons head rest ih =>
    obtain ⟨fresh, distinct⟩ := List.nodup_cons.mp nodup
    rw [List.flatMap_cons]
    rcases List.mem_cons.mp member with rfl | inside
    · have others : rest.flatMap (fun y => if key y = key x then f y else []) = [] := by
        apply List.flatMap_eq_nil_iff.mpr
        intro y inside
        exact if_neg fun same : key y = key x => fresh (same ▸ List.mem_map_of_mem inside)
      rw [if_pos rfl, others, List.append_nil]
    · have different : key head ≠ key x := fun same => fresh (same ▸ List.mem_map_of_mem inside)
      rw [if_neg different, List.nil_append, ih distinct inside]

theorem flatMap_filter_of_nil {keep : α → Bool} {f : α → List β} {l : List α}
    (dropped : ∀ x ∈ l, keep x = false → f x = []) : (l.filter keep).flatMap f = l.flatMap f := by
  induction l with
  | nil => rfl
  | cons x rest ih =>
    have others := ih fun y member => dropped y (List.mem_cons_of_mem _ member)
    rw [List.filter_cons, List.flatMap_cons]
    split
    next => rw [List.flatMap_cons, others]
    next gone => rw [others, dropped x List.mem_cons_self (Bool.not_eq_true _ ▸ gone), List.nil_append]

theorem flatMap_filterMap (f : α → Option β) (g : β → List γ) (l : List α) :
    (l.filterMap f).flatMap g = l.flatMap fun x => (f x).toList.flatMap g := by
  induction l with
  | nil => rfl
  | cons x rest ih =>
    rw [List.filterMap_cons, List.flatMap_cons, ← ih]
    cases f x <;> simp

/-! Lists that are sorted by a text. -/

section

variable {α : Type} (key : α → String)

theorem pairwise_mergeSort_by (l : List α) :
    (l.mergeSort fun a b => key a ≤ key b).Pairwise fun a b => key a ≤ key b := by
  have pairs : (l.mergeSort fun a b => key a ≤ key b).Pairwise fun a b => decide (key a ≤ key b) = true := by
    apply List.pairwise_mergeSort
    · intro a b c below below'
      rw [decide_eq_true_eq] at below below' ⊢
      exact String.le_trans below below'
    · intro a b
      simpa using String.le_total (key a) (key b)
  simpa only [decide_eq_true_eq] using pairs

theorem mergeSort_eq_iff_perm {a b : List String} : a.mergeSort (· ≤ ·) = b.mergeSort (· ≤ ·) ↔ a.Perm b := by
  constructor
  · intro same
    exact (List.mergeSort_perm a _).symm.trans (same ▸ List.mergeSort_perm b _)
  · intro perm
    have sortedPerm := (List.mergeSort_perm a (· ≤ ·)).trans (perm.trans (List.mergeSort_perm b (· ≤ ·)).symm)
    exact List.Perm.eq_of_pairwise (fun _ _ _ _ => String.le_antisymm) (pairwise_mergeSort_by id a)
      (pairwise_mergeSort_by id b) sortedPerm

end

namespace Logged

theorem result_mapM (f : α → Logged β) (l : List α) :
    (l.mapM f).result = l.mapM fun x => (f x).result := by
  induction l with
  | nil => rfl
  | cons x rest ih =>
    simp only [List.mapM_cons, result_bind, result_pure, ih]
    rfl

theorem mapM_map (f : α → Logged β) (g : β → γ) (l : List α) :
    l.mapM (fun x => g <$> f x) = List.map g <$> l.mapM f := by
  induction l with
  | nil => rfl
  | cons x rest ih => simp only [List.mapM_cons, ih, bind_map_left, map_bind, map_pure, List.map_cons]

end Logged

end Listfile
