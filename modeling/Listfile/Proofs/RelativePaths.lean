import Listfile.Proofs.PathCase

/-!
Paths below a directory: when one path lies below another, what is left of it there, and that the directory and what
is left make up the path again.
-/

namespace Listfile

namespace Path

/-! What lies below a path. -/

/-- `path` is `base` followed by `rest`, where the case of `base` and the number of slashes in front do not
matter. -/
structure LiesBelow (base path : String) (rest : List String) : Prop where
  filled : base ≠ ""
  rooted : isRooted path = isRooted base
  slashed : startsWithSlash path = startsWithSlash base
  front : ∃ front, parts path = front ++ rest ∧
    List.Forall₂ (fun outer inner => Text.sameIgnoringCase outer inner = true) (parts base) front

theorem zip_all_iff {α β : Type} {f : α × β → Bool} {l : List α} {long : List β} :
    (l.zip long).all f = true ∧ l.length ≤ long.length ↔
      List.Forall₂ (fun a b => f (a, b) = true) l (long.take l.length) := by
  induction l generalizing long with
  | nil => simp
  | cons first rest ih =>
    cases long with
    | nil => simp
    | cons head tail => simp [← ih, and_assoc]

theorem LiesBelow.rest_eq {base path : String} {rest : List String} (below : LiesBelow base path rest) :
    rest = (parts path).drop (parts base).length := by
  obtain ⟨front, whole, same⟩ := below.front
  rw [whole, same.length_eq, List.drop_left]

theorem relativeTo?_eq_some_iff {base path relative : String} :
    relativeTo? path base = some relative ↔
      ∃ rest, LiesBelow base path rest ∧ "/".intercalate rest = relative := by
  have shape (rest : List String) : LiesBelow base path rest ↔ (base ≠ "" ∧ isRooted path = isRooted base ∧
      startsWithSlash path = startsWithSlash base) ∧
      (((parts base).zip (parts path)).all fun pair => Text.sameIgnoringCase pair.1 pair.2) = true ∧
      (parts base).length ≤ (parts path).length ∧ rest = (parts path).drop (parts base).length := by
    rw [← and_assoc (b := (parts base).length ≤ _), zip_all_iff]
    constructor
    · intro below
      obtain ⟨front, whole, same⟩ := below.front
      refine ⟨⟨below.filled, below.rooted, below.slashed⟩, ?_, below.rest_eq⟩
      rw [whole, same.length_eq, List.take_left]
      exact same
    · intro given
      rcases given with ⟨⟨filled, rooted, slashed⟩, same, rfl⟩
      exact ⟨filled, rooted, slashed, _, (List.take_append_drop _ _).symm, same⟩
  simp only [shape, relativeTo?, Bool.or_eq_true, decide_eq_true_eq, bne_iff_ne, ne_eq]
  constructor
  · intro found
    split at found
    next => simp at found
    next fits =>
      simp only [not_or, not_not, Nat.not_lt] at fits
      obtain ⟨⟨⟨filled, long⟩, rooted⟩, slashed⟩ := fits
      split at found
      next same => exact ⟨_, ⟨⟨filled, rooted, slashed⟩, same, long, rfl⟩, Option.some.inj found⟩
      next => simp at found
  · intro given
    rcases given with ⟨_, ⟨⟨filled, rooted, slashed⟩, same, long, rfl⟩, rfl⟩
    rw [if_neg (by simp [filled, rooted, slashed, long]), if_pos same]

theorem relativeTo?_eq_none_iff {base path : String} :
    relativeTo? path base = none ↔ ∀ rest, ¬ LiesBelow base path rest := by
  constructor
  · intro none rest below
    have found := relativeTo?_eq_some_iff.mpr ⟨rest, below, rfl⟩
    simp [none] at found
  · intro outside
    by_contra found
    obtain ⟨relative, found⟩ := Option.ne_none_iff_exists'.mp found
    obtain ⟨rest, below, -⟩ := relativeTo?_eq_some_iff.mp found
    exact outside rest below

/-! What is left of a canonical path below a canonical directory. -/

theorem intercalate_map_ofList (components : List Component) :
    "/".intercalate (components.map String.ofList) = String.ofList (joined components) := by
  rw [← String.toList_inj, String.toList_intercalate]
  simp [joined, Function.comp_def]

section

variable {base path : Canonical} {rest : List String}

theorem fields_ne_nil (baseNormal : base.Normal) (pathNormal : path.Normal)
    (below : LiesBelow (String.ofList base.chars) (String.ofList path.chars) rest) {letter : Char}
    (drive : path.root = .drive letter) : base.fields ≠ [] := by
  intro none
  have unslashed : startsWithSlash (String.ofList base.chars) ≠ true := by
    rw [← below.slashed, ne_eq, Canonical.startsWithSlash_chars pathNormal, drive]
    simp
  rw [ne_eq, Canonical.startsWithSlash_chars baseNormal, not_or] at unslashed
  have filled := below.filled
  obtain ⟨root, components⟩ := base
  cases root <;> simp_all [Canonical.fields, Canonical.chars]

theorem LiesBelow.exists_fields (baseNormal : base.Normal) (pathNormal : path.Normal)
    (below : LiesBelow (String.ofList base.chars) (String.ofList path.chars) rest) :
    ∃ front own, path.fields = front ++ own ∧ rest = own.map String.ofList ∧
      List.Forall₂ Text.Alike base.fields front := by
  obtain ⟨front, whole, same⟩ := below.front
  rw [Canonical.parts_chars pathNormal] at whole
  rw [Canonical.parts_chars baseNormal] at same
  obtain ⟨front, own, fields, rfl, rfl⟩ := List.map_eq_append_iff.mp whole
  rw [List.forall₂_map_left_iff, List.forall₂_map_right_iff] at same
  exact ⟨front, own, fields, rfl, same.imp fun _ _ equal => by simpa [Text.sameIgnoringCase_iff] using equal⟩

theorem LiesBelow.exists_suffix (baseNormal : base.Normal) (pathNormal : path.Normal)
    (below : LiesBelow (String.ofList base.chars) (String.ofList path.chars) rest) :
    ∃ own, own <:+ path.components ∧ rest = own.map String.ofList := by
  obtain ⟨front, own, fields, left, same⟩ := below.exists_fields baseNormal pathNormal
  refine ⟨own, ?_, left⟩
  cases root : path.root with
  | drive letter =>
    have some := fields_ne_nil baseNormal pathNormal below root
    have split : [letter, ':'] :: path.components = front ++ own := by
      rw [← fields, Canonical.fields, root]
    cases front with
    | nil => exact absurd (List.forall₂_nil_right_iff.mp same) some
    | cons head tail => exact ⟨tail, (List.cons.inj split).2.symm⟩
  | none => exact ⟨front, by rw [← fields, Canonical.fields, root]⟩
  | slash => exact ⟨front, by rw [← fields, Canonical.fields, root]⟩
  | share => exact ⟨front, by rw [← fields, Canonical.fields, root]⟩

end

theorem mem_slashed {text : String} {c : Char} (member : c ∈ (Text.slashed text).toList) :
    c ≠ '\\' ∧ (c = '/' ∨ c ∈ text.toList) := by
  rw [Text.slashed, Text.replaceChar, String.toList_map] at member
  obtain ⟨own, inside, rfl⟩ := List.mem_map.mp member
  split
  next => simp
  next other => exact ⟨other, .inr inside⟩

theorem mem_of_mem_stripEnd {drop : Char → Bool} {cs : List Char} {c : Char}
    (member : c ∈ Text.stripEnd drop cs) : c ∈ cs :=
  List.mem_reverse.mp ((List.dropWhile_sublist _).subset (List.mem_reverse.mp member))

theorem slashed_eq_self {text : String} (slashed : '\\' ∉ text.toList) : Text.slashed text = text := by
  have kept : ∀ c ∈ text.toList, (if c = '\\' then '/' else c) = c := by
    intro c member
    refine if_neg ?_
    rintro rfl
    exact slashed member
  rw [Text.slashed, Text.replaceChar, ← String.toList_inj, String.toList_map]
  exact (List.map_congr_left kept).trans (List.map_id _)

def Canonical.of (text : String) : Canonical := .ofChars (Text.slashed text).toList

namespace Canonical

theorem normal_of (text : String) : (of text).Normal := normal_ofChars _

theorem mem_of {text : String} {c : Char} (member : c ∈ (of text).chars) :
    c ≠ '\\' ∧ (c = '/' ∨ c ∈ text.toList) := by
  rcases mem_of_mem_chars member with rfl | inside
  · simp
  · exact mem_slashed inside

theorem backslash_notMem (text : String) : '\\' ∉ (of text).chars := fun member => (mem_of member).1 rfl

theorem isRooted_of (text : String) : isRooted (String.ofList (of text).chars) =
    (startsWithSlash (String.ofList (of text).chars) || startsWithDrive (of text).chars) := by
  have slashless := backslash_notMem text
  rw [isRooted_eq (by rwa [String.toList_ofList]), String.toList_ofList]

theorem parent_notMem {text : String} (rooted : isRooted (String.ofList (of text).chars) = true) :
    parent ∉ (of text).components := by
  have normal := normal_of text
  rw [isRooted_of, Bool.or_eq_true, startsWithSlash_chars normal] at rooted
  by_cases rootless : (of text).root = .none
  · rw [chars_eq, rootless] at rooted
    simp only [reduceCtorEq, or_self, false_or] at rooted
    have drive : startsWithDrive ((of text).components.headD []) = true :=
      (startsWithDrive_joined normal.named).symm.trans rooted
    intro member
    have upwards := normal.upwards
    cases split : (of text).components with
    | nil => simp [split] at member
    | cons first rest =>
      rw [split] at drive member upwards
      have leads : first = parent := by
        rcases List.mem_cons.mp member with same | member
        · exact same.symm
        · exact (List.pairwise_cons.mp upwards).1 parent member rfl
      simp [leads, parent, startsWithDrive] at drive
  · exact normal.rooted rootless

end Canonical

section

variable {base path : String} {rest : List String}

theorem LiesBelow.exists_own (below : LiesBelow (canonical base) (canonical path) rest) :
    ∃ own, own <:+ (Canonical.of path).components ∧ rest = own.map String.ofList ∧
      Canonical.Normal ⟨.none, own⟩ ∧ '\\' ∉ joined own := by
  have normal := Canonical.normal_of path
  obtain ⟨own, suffix, left⟩ := LiesBelow.exists_suffix (Canonical.normal_of base) normal below
  refine ⟨own, suffix, left, ⟨by simp, ?_, ?_, by simp⟩, fun member => ?_⟩
  · exact fun component member => normal.named component (suffix.subset member)
  · exact normal.upwards.sublist suffix.sublist
  · rcases mem_joined member with slash | ⟨component, inside, member⟩
    · simp at slash
    · refine Canonical.backslash_notMem path ?_
      rw [Canonical.chars_eq, List.mem_append]
      exact .inr (mem_joined_of_mem (suffix.subset inside) member)

theorem LiesBelow.normalize_rest (below : LiesBelow (canonical base) (canonical path) rest)
    (relative : isRooted ("/".intercalate rest) = false) :
    normalize ("/".intercalate rest) = "/".intercalate rest ∧ parts ("/".intercalate rest) = rest := by
  obtain ⟨own, -, rfl, normal, slashless⟩ := below.exists_own
  rw [intercalate_map_ofList] at relative ⊢
  rw [isRooted_eq (by rwa [String.toList_ofList]), Bool.or_eq_false_iff, String.toList_ofList] at relative
  have text : Canonical.chars ⟨.none, own⟩ = joined own := rfl
  have reads := Canonical.ofChars_chars normal fun _ => text ▸ relative.2
  have split := Canonical.parts_chars normal
  rw [text] at reads split
  exact ⟨by rw [normalize, String.toList_ofList, reads, text], split⟩

theorem LiesBelow.parent_notMem (below : LiesBelow (canonical base) (canonical path) rest)
    (rooted : isRooted (canonical base) = true) : ".." ∉ rest := by
  obtain ⟨own, suffix, rfl, -⟩ := below.exists_own
  intro member
  obtain ⟨component, inside, same⟩ := List.mem_map.mp member
  have isParent : component = parent := by rw [← String.toList_ofList (l := component), same]; rfl
  exact Canonical.parent_notMem (below.rooted.trans rooted) (isParent ▸ suffix.subset inside)

end

end Path

end Listfile
