import Listfile.Proofs.SameDirectories
import Mathlib.Data.List.TakeWhile

/-!
The canonical form of a path as its text shows it: its root, its components, and that what is joined to a path leads to
where it leads from the canonical form.
-/

namespace Listfile.Path

/-! The root and the components of a text. -/

def rootOf (path : String) : Root := (splitRoot path.toList).1

/-- What stands between the slashes behind the root of a path. A path that is no more than its root has no
components. -/
def componentsOf (path : String) : List Component :=
  if (splitRoot path.toList).2 = [] then [] else (splitRoot path.toList).2.splitOnP (· = '/')

variable {root : Root} {components : List Component}

namespace Canonical

variable {path : Canonical}

theorem rootOf_chars (normal : path.Normal) (relative : path.root = .none → startsWithDrive path.chars = false) :
    rootOf (String.ofList path.chars) = path.root := by
  rw [rootOf, String.toList_ofList, splitRoot_chars normal relative]

theorem componentsOf_chars (normal : path.Normal)
    (relative : path.root = .none → startsWithDrive path.chars = false) :
    componentsOf (String.ofList path.chars) = path.components := by
  rw [componentsOf, String.toList_ofList, splitRoot_chars normal relative]
  by_cases empty : path.components = []
  · rw [empty]
    rfl
  · rw [if_neg (joined_ne_nil normal.named empty),
      splitOnP_joined (fun component member => (normal.named component member).2.2) empty]

theorem Normal.exists_leading (normal : path.Normal) :
    ∃ count rest, path.components = List.replicate count parent ++ rest ∧ parent ∉ rest := by
  obtain ⟨root, components⟩ := path
  induction components with
  | nil => exact ⟨0, [], rfl, List.not_mem_nil⟩
  | cons first rest ih =>
    by_cases leads : first = parent
    · have inner : Normal ⟨root, rest⟩ := normal.of_sublist (List.sublist_cons_self _ _)
      obtain ⟨count, behind, same, others⟩ := ih inner
      dsimp only at same ⊢
      exact ⟨count + 1, behind, by rw [leads, same]; rfl, others⟩
    · refine ⟨0, first :: rest, rfl, fun member => ?_⟩
      rcases List.mem_cons.mp member with same | member
      · exact leads same.symm
      · exact leads ((List.pairwise_cons.mp normal.upwards).1 parent member rfl)

end Canonical

/-- Whether nothing in a path without a root looks as if it were a drive. -/
def Undriven (path : String) : Prop :=
  isRooted path = true ∨ ∀ component ∈ componentsOf path, startsWithDrive component = false

theorem rootOf_ne_none {path : String} (slashed : '\\' ∉ path.toList) (rooted : isRooted path = true) :
    rootOf path ≠ .none := by
  have read := Canonical.root_of path rooted
  rwa [Canonical.of, slashed_eq_self slashed] at read

theorem startsWithDrive_ofChars {path : String} (slashed : '\\' ∉ path.toList) (undriven : Undriven path)
    (rootless : (Canonical.ofChars path.toList).root = .none) :
    startsWithDrive (Canonical.ofChars path.toList).chars = false := by
  have normal := Canonical.normal_ofChars path.toList
  rcases undriven with rooted | plain
  · exact absurd rootless (rootOf_ne_none slashed rooted)
  · rw [Canonical.chars_eq, rootless]
    show startsWithDrive (joined _) = false
    rw [startsWithDrive_joined normal.named]
    cases own : (Canonical.ofChars path.toList).components with
    | nil => rfl
    | cons first rest =>
      have member : first ∈ collapse (splitRoot path.toList).1 ((splitRoot path.toList).2.splitOnP (· = '/')) := by
        rw [Canonical.ofChars_eq] at own
        dsimp only at own
        rw [own]
        exact List.mem_cons_self
      refine plain first ?_
      rw [componentsOf, if_neg]
      · exact mem_collapse member
      · intro empty
        rw [Canonical.ofChars_eq, empty] at own
        simp [collapse, push] at own

/-! Paths behind a path. -/

/-- What follows a path in a text: nothing, or what is behind another slash. -/
def Follows (behind : List Char) : Prop := behind = [] ∨ ∃ rest, behind = '/' :: rest

theorem segments_append {behind : List Char} (follows : Follows behind) (cs : List Char) :
    segments (cs ++ behind) = segments cs ++ segments behind := by
  rcases follows with rfl | ⟨rest, rfl⟩
  · rw [List.append_nil]
    exact (List.append_nil _).symm
  · rw [segments_append_slash, segments_slash]

theorem segments_replicate_slash (count : Nat) : segments (List.replicate count '/') = [] := by
  induction count with
  | zero => rfl
  | succ count ih => rw [List.replicate_succ, segments_slash, ih]

theorem exists_ofChars_append {cs : List Char} (filled : cs ≠ []) (last : cs.getLast? ≠ some '/') :
    ∃ root front, ∀ behind, Follows behind →
      Canonical.ofChars (cs ++ behind) = ⟨root, collapse root (front ++ segments behind)⟩ := by
  by_cases slashed : cs.head? = some '/'
  · obtain ⟨rest, rfl⟩ := List.head?_eq_some_iff.mp slashed
    have more : rest ≠ [] := by
      rintro rfl
      exact last rfl
    by_cases double : rest.head? = some '/'
    · obtain ⟨rest, rfl⟩ := List.head?_eq_some_iff.mp double
      refine ⟨.share, segments rest, fun behind follows => ?_⟩
      rw [List.cons_append, List.cons_append, ofChars_share, segments_append follows]
    · refine ⟨.slash, segments rest, fun behind follows => ?_⟩
      rw [List.cons_append, ofChars_slash (by rwa [List.head?_append_of_ne_nil _ more]), segments_append follows]
  · by_cases driven : startsWithDrive cs = true
    · obtain ⟨letter, rest, alpha, rfl⟩ := startsWithDrive_iff.mp driven
      refine ⟨.drive letter, segments rest, fun behind follows => ?_⟩
      rw [List.cons_append, List.cons_append, ofChars_drive alpha, segments_append follows]
    · refine ⟨.none, segments cs, fun behind follows => ?_⟩
      have drive : startsWithDrive (cs ++ behind) = false := by
        rw [Bool.not_eq_true] at driven
        rcases follows with rfl | ⟨rest, rfl⟩
        · rwa [List.append_nil]
        · rwa [startsWithDrive_append_slash]
      rw [ofChars_rootless (by rwa [List.head?_append_of_ne_nil _ filled]) drive, segments_append follows]

theorem collapse_append (normal : Canonical.Normal ⟨root, collapse root components⟩) (behind : List Component) :
    collapse root (collapse root components ++ behind) = collapse root (components ++ behind) := by
  have pushed : (collapse root components).foldl (push root) [] = components.foldl (push root) [] := by
    rw [foldl_push normal, collapse, List.reverse_reverse, List.append_nil]
  rw [collapse, List.foldl_append, pushed, ← List.foldl_append, collapse]

theorem exists_stripEnd (cs : List Char) : ∃ count, cs = Text.stripEnd (· = '/') cs ++ List.replicate count '/' ∧
    (Text.stripEnd (· = '/') cs).getLast? ≠ some '/' := by
  have slashes : ∀ c ∈ cs.reverse.takeWhile (· = '/'), c = '/' := fun c member => by
    simpa using List.mem_takeWhile_imp member
  refine ⟨(cs.reverse.takeWhile (· = '/')).length, ?_, fun last => ?_⟩
  · rw [Text.stripEnd, ← List.reverse_replicate, ← List.eq_replicate_of_mem slashes, ← List.reverse_append,
      List.takeWhile_append_dropWhile, List.reverse_reverse]
  · rw [Text.stripEnd, List.getLast?_reverse] at last
    have stops := List.head?_dropWhile_not (· = '/') cs.reverse
    rw [last] at stops
    simp at stops

theorem ofChars_stripEnd_slash {cs : List Char} (filled : cs ≠ [])
    (bare : ∀ rest, cs = '/' :: '/' :: rest → ∃ c ∈ rest, c ≠ '/')
    {relative : List Char} (head : relative.head? ≠ some '/') :
    Canonical.ofChars (Text.stripEnd (· = '/') cs ++ '/' :: relative) =
      ⟨(Canonical.ofChars cs).root, collapse (Canonical.ofChars cs).root
        ((Canonical.ofChars cs).components ++ segments relative)⟩ := by
  obtain ⟨count, split, last⟩ := exists_stripEnd cs
  generalize Text.stripEnd (· = '/') cs = own at split last ⊢
  have normal := Canonical.normal_ofChars cs
  by_cases empty : own = []
  · -- A path of slashes only is the root itself.
    subst empty
    have single : cs = ['/'] := by
      rw [List.nil_append] at split
      match count with
      | 0 => exact absurd split filled
      | 1 => exact split
      | more + 2 =>
        obtain ⟨c, member, other⟩ := bare (List.replicate more '/') split
        exact absurd (List.eq_of_mem_replicate member) other
    subst single
    rw [List.nil_append, ofChars_slash head]
    rfl
  · obtain ⟨root, front, read⟩ := exists_ofChars_append empty last
    have whole : Canonical.ofChars cs = ⟨root, collapse root front⟩ := by
      rw [split, read]
      · rw [segments_replicate_slash, List.append_nil]
      · cases count with
        | zero => exact .inl rfl
        | succ count => exact .inr ⟨_, rfl⟩
    rw [read _ (.inr ⟨relative, rfl⟩), whole, segments_slash]
    rw [whole] at normal
    rw [collapse_append normal]

/-! Canonical forms of texts. -/

section

variable {path relative : String}

theorem normalize_eq (path : String) : normalize path = String.ofList (Canonical.ofChars path.toList).chars := rfl

theorem ofChars_normalize (slashed : '\\' ∉ path.toList) (undriven : Undriven path) :
    Canonical.ofChars (normalize path).toList = Canonical.ofChars path.toList := by
  rw [normalize_eq, String.toList_ofList]
  exact Canonical.ofChars_chars (Canonical.normal_ofChars _) (startsWithDrive_ofChars slashed undriven)

theorem root_ofChars_eq_share_iff {cs : List Char} :
    (Canonical.ofChars cs).root = .share ↔ ∃ rest, cs = '/' :: '/' :: rest := by
  constructor
  · intro share
    rw [Canonical.ofChars_eq] at share
    dsimp only at share
    unfold splitRoot at share
    split at share
    next rest => exact ⟨rest, rfl⟩
    next => simp at share
    next => split at share <;> simp at share
    next => simp at share
  · rintro ⟨rest, rfl⟩
    rfl

theorem join_empty (base : String) : join base "" = base := by
  unfold join
  split
  next either =>
    rw [Bool.or_eq_true, decide_eq_true_eq] at either
    exact (either.resolve_left (by decide)).symm
  next => rfl

theorem startsWithDrive_of_isRooted (relativeText : isRooted relative = false) :
    startsWithDrive relative.toList = false := by
  unfold isRooted at relativeText
  split at relativeText
  next => simp at relativeText
  next => simp at relativeText
  next => exact relativeText

theorem ofChars_join (filled : path ≠ "")
    (bare : ∀ rest, path.toList = '/' :: '/' :: rest → ∃ c ∈ rest, c ≠ '/')
    (relativeText : isRooted relative = false) (relative_ne : relative ≠ "") :
    Canonical.ofChars (join path relative).toList =
      ⟨(Canonical.ofChars path.toList).root, collapse (Canonical.ofChars path.toList).root
        ((Canonical.ofChars path.toList).components ++ segments relative.toList)⟩ := by
  rw [toList_join relativeText filled relative_ne]
  exact ofChars_stripEnd_slash (by simpa using filled) bare (head?_of_isRooted relativeText)

theorem normalize_join (slashed : '\\' ∉ path.toList) (undriven : Undriven path)
    (single : startsWithShare path = false) (relativeText : isRooted relative = false) :
    normalize (join (normalize path) relative) = normalize (join path relative) := by
  have read := ofChars_normalize slashed undriven
  by_cases same : relative = "" ∨ path = ""
  · rcases same with rfl | rfl
    · rw [join_empty, join_empty, normalize_eq (normalize path), read, normalize_eq]
    · rfl
  obtain ⟨relative_ne, filled⟩ := not_or.mp same
  have unshared : ¬ ∃ rest, path.toList = '/' :: '/' :: rest := by
    rintro ⟨rest, double⟩
    simp [startsWithShare, double] at single
  have unshared' : ¬ ∃ rest, (normalize path).toList = '/' :: '/' :: rest := by
    rwa [← root_ofChars_eq_share_iff, read, root_ofChars_eq_share_iff]
  rw [normalize_eq, normalize_eq (join path relative),
    ofChars_join filled (fun rest double => absurd ⟨rest, double⟩ unshared) relativeText relative_ne]
  by_cases empty : normalize path = ""
  · -- Nothing is left of the path, so that what is joined to it stands for itself.
    have none : Canonical.ofChars path.toList = ⟨.none, []⟩ := by
      rw [← read, empty]
      rfl
    rw [empty, none, List.nil_append, ← ofChars_rootless (head?_of_isRooted relativeText)
      (startsWithDrive_of_isRooted relativeText), join, if_pos (by simp)]
  · rw [ofChars_join empty (fun rest double => absurd ⟨rest, double⟩ unshared') relativeText relative_ne, read]

end

/-- The canonical form of a path has the root of the path, and components that lead upwards only first and without a
root. It is its own canonical form, and what is joined to it leads to where it leads from the path. -/
theorem normalize_is_canonical {path : String} (slashed : '\\' ∉ path.toList) (undriven : Undriven path) :
    rootOf (normalize path) = rootOf path ∧
    (∀ component ∈ componentsOf (normalize path), component ≠ [] ∧ component ≠ ['.']) ∧
    (∃ count rest, componentsOf (normalize path) = List.replicate count parent ++ rest ∧ parent ∉ rest ∧
      (isRooted path = true → count = 0)) ∧
    normalize (normalize path) = normalize path ∧
    (startsWithShare path = false → ∀ relative, isRooted relative = false →
      normalize (join (normalize path) relative) = normalize (join path relative)) := by
  have normal := Canonical.normal_ofChars path.toList
  have relative := startsWithDrive_ofChars slashed undriven
  have components : componentsOf (normalize path) = (Canonical.ofChars path.toList).components :=
    Canonical.componentsOf_chars normal relative
  refine ⟨Canonical.rootOf_chars normal relative, fun component member => ?_, ?_, ?_,
    fun single relative relativeText => normalize_join slashed undriven single relativeText⟩
  · have named := normal.named component (components ▸ member)
    exact ⟨named.1, named.2.1⟩
  · obtain ⟨count, rest, leading, others⟩ := normal.exists_leading
    refine ⟨count, rest, components.trans leading, others, fun rooted => ?_⟩
    by_contra some
    have member : parent ∈ (Canonical.ofChars path.toList).components := by
      rw [leading]
      exact List.mem_append_left _ (List.mem_replicate.mpr ⟨some, rfl⟩)
    exact normal.rooted (rootOf_ne_none slashed rooted) member
  · rw [normalize_eq (normalize path), ofChars_normalize slashed undriven, normalize_eq]

theorem climbing_path_is_canonical :
    normalize "../lib/./old/..//../../x" = "../../x" ∧
    normalize (join "../../x" "y/..") = normalize (join "../lib/./old/..//../../x" "y/..") := by
  have text : normalize "../lib/./old/..//../../x" = "../../x" := by decide
  have slashed : '\\' ∉ "../lib/./old/..//../../x".toList := by decide
  have undriven : Undriven "../lib/./old/..//../../x" := .inr (by decide)
  obtain ⟨-, -, -, -, joined⟩ := normalize_is_canonical slashed undriven
  exact ⟨text, text ▸ joined (by decide) "y/.." (by decide)⟩

end Listfile.Path
