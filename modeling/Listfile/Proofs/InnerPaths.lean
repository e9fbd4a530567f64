import Listfile.Proofs.NormalForms

/-!
What is left of a canonical path below a canonical directory, by their roots and components.
-/

namespace Listfile.Path

def Root.Same : Root → Root → Prop
  | .drive first, .drive second => first.toLower = second.toLower
  | first, second => first = second

/-- Roots that agree are the same unless just one of them is that of a share. -/
theorem Root.same_iff_agrees {first second : Root} (slash : first = .slash → second ≠ .share)
    (share : first = .share → second ≠ .slash) : first.Same second ↔ first.Agrees second := by
  cases first <;> cases second <;> simp_all [Same, Agrees]

/-- What `path` has behind `base`, case aside, where nothing of it leads out of `base` again. -/
structure IsInside (base path : String) (rest : List Component) : Prop where
  root : (rootOf base).Same (rootOf path)
  front : ∃ front, componentsOf path = front ++ rest ∧ List.Forall₂ Text.Alike (componentsOf base) front
  inward : parent ∉ rest

/-- A canonical path whose text is read as the path itself. -/
structure Canonical.Settled (path : Canonical) : Prop extends path.Normal where
  undriven : path.root = .none → startsWithDrive path.chars = false
  slashless : '\\' ∉ path.chars

theorem exists_settled {text : String} (own : canonical text = text) :
    ∃ path : Canonical, path.Settled ∧ text = String.ofList path.chars := by
  have slashless := Canonical.backslash_notMem text
  have chars : text.toList = (Canonical.of text).chars := by
    rw [← toList_canonical, own]
  refine ⟨.of text, ⟨Canonical.normal_of text, fun rootless => ?_, slashless⟩, own.symm⟩
  rw [Canonical.of, slashed_eq_self (chars ▸ slashless)] at rootless
  exact chars ▸ startsWithDrive_of_splitRoot rootless

/-! The fields of paths that start alike. -/

theorem alike_drive {letter letter' : Char} (alpha : letter.isAlpha = true) (alpha' : letter'.isAlpha = true) :
    Text.Alike [letter, ':'] [letter', ':'] ↔ letter.toLower = letter'.toLower := by
  have colon : ':'.toNat < 128 := by decide
  rw [Text.Alike, Text.lowerFrom_ascii (Text.toNat_lt_of_isAlpha alpha), Text.lowerFrom_ascii colon,
    Text.lowerFrom_ascii (Text.toNat_lt_of_isAlpha alpha'), Text.lowerFrom_ascii colon]
  simp [Text.lowerFrom]

theorem exists_front_cons_iff {α : Type} {R : α → α → Prop} {a b : α} {l long rest : List α} :
    (∃ front, b :: long = front ++ rest ∧ List.Forall₂ R (a :: l) front) ↔
      R a b ∧ ∃ front, long = front ++ rest ∧ List.Forall₂ R l front := by
  constructor
  · rintro ⟨front, whole, same⟩
    obtain ⟨head, tail, first, others, rfl⟩ := List.forall₂_cons_left_iff.mp same
    obtain ⟨rfl, behind⟩ := List.cons.inj whole
    exact ⟨first, tail, behind, others⟩
  · rintro ⟨first, front, rfl, others⟩
    exact ⟨b :: front, rfl, .cons first others⟩

namespace Canonical

variable {base path : Canonical} {rest : List Component}

theorem Settled.isRooted_iff (settled : path.Settled) :
    isRooted (String.ofList path.chars) = true ↔ path.root ≠ .none := by
  rw [isRooted_eq (by rw [String.toList_ofList]; exact settled.slashless), Bool.or_eq_true,
    startsWithSlash_chars settled.toNormal, String.toList_ofList]
  have undriven := settled.undriven
  have letter := settled.letter
  cases root : path.root with
  | none => simp [undriven root]
  | slash => simp
  | share => simp
  | drive letter' => simp [chars_eq, root, Root.chars, startsWithDrive, letter letter' root]

theorem fields_iff (baseNormal : base.Normal) (pathNormal : path.Normal) :
    ((path.root ≠ .none ↔ base.root ≠ .none) ∧
      (path.root = .slash ∨ path.root = .share ↔ base.root = .slash ∨ base.root = .share) ∧
      ∃ front, path.fields = front ++ rest ∧ List.Forall₂ Text.Alike base.fields front) ↔
    base.root.Agrees path.root ∧
      ∃ front, path.components = front ++ rest ∧ List.Forall₂ Text.Alike base.components front := by
  have alpha := baseNormal.letter
  have alpha' := pathNormal.letter
  cases root : base.root with
  | drive letter =>
    cases root' : path.root with
    | drive letter' =>
      simp only [fields, root, root', exists_front_cons_iff, alike_drive (alpha _ root) (alpha' _ root'), Root.Agrees]
      simp
    | _ => simp [Root.Agrees]
  | _ => cases root' : path.root <;> simp [Root.Agrees, fields, root, root']

theorem liesBelow_iff (baseSettled : base.Settled) (pathSettled : path.Settled)
    (filled : String.ofList base.chars ≠ "") {own : List String} :
    LiesBelow (String.ofList base.chars) (String.ofList path.chars) own ↔
      base.root.Agrees path.root ∧ ∃ rest, own = rest.map String.ofList ∧
        ∃ front, path.components = front ++ rest ∧ List.Forall₂ Text.Alike base.components front := by
  have rooted : isRooted (String.ofList path.chars) = isRooted (String.ofList base.chars) ↔
      (path.root ≠ .none ↔ base.root ≠ .none) := by
    rw [Bool.eq_iff_iff, pathSettled.isRooted_iff, baseSettled.isRooted_iff]
  have slashed : startsWithSlash (String.ofList path.chars) = startsWithSlash (String.ofList base.chars) ↔
      (path.root = .slash ∨ path.root = .share ↔ base.root = .slash ∨ base.root = .share) := by
    rw [Bool.eq_iff_iff, startsWithSlash_chars pathSettled.toNormal, startsWithSlash_chars baseSettled.toNormal]
  constructor
  · intro below
    obtain ⟨front, rest, whole, left, same⟩ :=
      LiesBelow.exists_fields baseSettled.toNormal pathSettled.toNormal below
    obtain ⟨roots, fits⟩ := (fields_iff baseSettled.toNormal pathSettled.toNormal).mp
      ⟨rooted.mp below.rooted, slashed.mp below.slashed, front, whole, same⟩
    exact ⟨roots, rest, left, fits⟩
  · rintro ⟨roots, rest, rfl, fits⟩
    obtain ⟨kind, slashes, front, whole, same⟩ :=
      (fields_iff baseSettled.toNormal pathSettled.toNormal).mpr ⟨roots, fits⟩
    refine ⟨filled, rooted.mpr kind, slashed.mpr slashes, front.map String.ofList, ?_, ?_⟩
    · rw [parts_chars pathSettled.toNormal, whole, List.map_append]
    · rw [parts_chars baseSettled.toNormal, List.forall₂_map_left_iff, List.forall₂_map_right_iff]
      exact same.imp fun _ _ alike => by simpa [Text.sameIgnoringCase_iff] using alike

theorem parent_notMem_behind (pathNormal : path.Normal) (filled : base.chars ≠ [])
    (plain : base.components.getLast? ≠ some parent) (roots : base.root.Agrees path.root) {front : List Component}
    (whole : path.components = front ++ rest) (same : List.Forall₂ Text.Alike base.components front) :
    parent ∉ rest := by
  intro member
  cases last : base.components.getLast? with
  | none =>
    -- The directory is the bare root, so that the path is rooted too.
    rw [List.getLast?_eq_none_iff] at last
    have rooted : path.root ≠ .none := by
      intro rootless
      rw [rootless] at roots
      rw [chars_eq, last] at filled
      cases root : base.root <;> simp_all [Root.Agrees, Root.chars, joined]
    exact pathNormal.rooted rooted (whole ▸ List.mem_append_right _ member)
  | some component =>
    -- All that stands before what leads upwards leads upwards itself, the end of the directory among it.
    obtain ⟨inner, inside, alike⟩ := exists_mem_of_forall₂ same (List.mem_of_getLast? last)
    have upwards := pathNormal.upwards
    rw [whole, List.pairwise_append] at upwards
    have leads : inner = parent := upwards.2.2 inner inside parent member rfl
    rw [last, (eq_parent_iff alike.sameLetters).mpr leads] at plain
    exact plain rfl

theorem Normal.append {root : Root} {components : List Component} (normal : Normal ⟨root, components⟩)
    (named : ∀ component ∈ rest, Named component) (inward : parent ∉ rest) : Normal ⟨root, components ++ rest⟩ where
  letter := normal.letter
  named component member := (List.mem_append.mp member).elim (normal.named component) (named component)
  upwards := by
    refine List.pairwise_append.mpr ⟨normal.upwards, ?_, fun _ _ later member leads => ?_⟩
    · exact List.pairwise_iff_forall_sublist.mpr fun sublist leads => absurd (leads ▸ sublist.subset (by simp)) inward
    · exact absurd (leads ▸ member) inward
  rooted rooted member := (List.mem_append.mp member).elim (normal.rooted rooted) inward

theorem Settled.rootOf_chars (settled : path.Settled) : rootOf (String.ofList path.chars) = path.root :=
  Canonical.rootOf_chars settled.toNormal settled.undriven

theorem Settled.componentsOf_chars (settled : path.Settled) :
    componentsOf (String.ofList path.chars) = path.components :=
  Canonical.componentsOf_chars settled.toNormal settled.undriven

theorem Settled.ofChars_chars (settled : path.Settled) : ofChars path.chars = path :=
  Canonical.ofChars_chars settled.toNormal settled.undriven

theorem Settled.exists_share (settled : path.Settled) (bare : path.chars ≠ ['/', '/']) {behind : List Char}
    (share : path.chars = '/' :: '/' :: behind) : ∃ c ∈ behind, c ≠ '/' := by
  have root : path.root = .share := by
    rw [← settled.ofChars_chars]
    exact root_ofChars_eq_share_iff.mpr ⟨behind, share⟩
  have text := path.chars_eq
  rw [root] at text
  have own : behind = joined path.components := by
    rw [share] at text
    exact (List.cons.inj (List.cons.inj text).2).2
  have head := head?_joined settled.named
  rw [← own] at head
  cases behind with
  | nil => exact absurd share bare
  | cons c rest => exact ⟨c, List.mem_cons_self, by simpa using head⟩

theorem Settled.ofChars_join (settled : base.Settled) (filled : base.chars ≠ [])
    (named : ∀ component ∈ rest, Named component) (inward : parent ∉ rest)
    (relative : isRooted (String.ofList (joined rest)) = false) (bare : base.chars = ['/', '/'] → rest = []) :
    ofChars (join (String.ofList base.chars) (String.ofList (joined rest))).toList =
      ⟨base.root, base.components ++ rest⟩ := by
  by_cases empty : rest = []
  · rw [empty, List.append_nil]
    show ofChars (join (String.ofList base.chars) "").toList = base
    rw [join_empty, String.toList_ofList, settled.ofChars_chars]
  · have plain : ∀ component ∈ rest, component ≠ [] ∧ '/' ∉ component := fun component member =>
      ⟨(named component member).1, (named component member).2.2⟩
    have share (behind : List Char) (share : (String.ofList base.chars).toList = '/' :: '/' :: behind) :
        ∃ c ∈ behind, c ≠ '/' := by
      rw [String.toList_ofList] at share
      exact settled.exists_share (fun alone => empty (bare alone)) share
    rw [Path.ofChars_join (by simpa using filled) share relative (by simpa using joined_ne_nil named empty),
      String.toList_ofList, String.toList_ofList, segments_joined plain, settled.ofChars_chars,
      collapse_of_normal (settled.toNormal.append named inward)]

theorem Settled.append (settled : base.Settled) (filled : base.chars ≠ [])
    (named : ∀ component ∈ rest, Named component) (inward : parent ∉ rest) :
    Normal ⟨base.root, base.components ++ rest⟩ ∧
      (base.root = .none → startsWithDrive (chars ⟨base.root, base.components ++ rest⟩) = false) := by
  have normal : Normal ⟨base.root, base.components ++ rest⟩ := settled.toNormal.append named inward
  refine ⟨normal, fun rootless => ?_⟩
  have undriven := settled.undriven rootless
  rw [chars_eq, rootless] at undriven filled ⊢
  have components : base.components ≠ [] := by
    intro none
    rw [none] at filled
    exact filled rfl
  obtain ⟨first, others, split⟩ := List.exists_cons_of_ne_nil components
  show startsWithDrive (joined (base.components ++ rest)) = false
  have undriven : startsWithDrive (joined base.components) = false := undriven
  rw [startsWithDrive_joined settled.named, split] at undriven
  rw [startsWithDrive_joined normal.named, split]
  exact undriven

end Canonical

section

variable {base path : Canonical}

theorem isInside_iff (baseSettled : base.Settled) (pathSettled : path.Settled) (filled : base.chars ≠ [])
    (slash : base.root = .slash → path.root ≠ .share) (share : base.root = .share → path.root ≠ .slash)
    (plain : base.components.getLast? ≠ some parent) (rest : List Component) :
    IsInside (String.ofList base.chars) (String.ofList path.chars) rest ↔ base.root.Agrees path.root ∧
      ∃ front, path.components = front ++ rest ∧ List.Forall₂ Text.Alike base.components front := by
  rw [← Root.same_iff_agrees slash share]
  constructor
  · intro inside
    have root := inside.root
    have front := inside.front
    rw [baseSettled.rootOf_chars, pathSettled.rootOf_chars] at root
    rw [baseSettled.componentsOf_chars, pathSettled.componentsOf_chars] at front
    exact ⟨root, front⟩
  · rintro ⟨root, front, whole, same⟩
    have agrees := (Root.same_iff_agrees slash share).mp root
    refine ⟨?_, ?_, Canonical.parent_notMem_behind pathSettled.toNormal filled plain agrees whole same⟩
    · rwa [baseSettled.rootOf_chars, pathSettled.rootOf_chars]
    · rw [baseSettled.componentsOf_chars, pathSettled.componentsOf_chars]
      exact ⟨front, whole, same⟩

end

/-- What is left of a path below a directory: the components that are behind those of the directory, and joined to it
they make up the path again. The root of a share is not told from the plain one, and a directory that ends with what
leads upwards is in front of paths that lead out of it. -/
theorem relativeTo?_iff_inside {path base : String} (pathOwn : canonical path = path) (baseOwn : canonical base = base)
    (filled : base ≠ "") (slash : rootOf base = .slash → rootOf path ≠ .share)
    (share : rootOf base = .share → rootOf path ≠ .slash) (plain : (componentsOf base).getLast? ≠ some parent)
    (relative : String) :
    (relativeTo? path base = some relative ↔
      ∃ rest, IsInside base path rest ∧ relative = String.ofList (joined rest)) ∧
    (relativeTo? path base = some relative → isRooted relative = false → (base = "//" → relative = "") →
      (rootOf (normalize (join base relative))).Same (rootOf path) ∧
      List.Forall₂ Text.Alike (componentsOf (normalize (join base relative))) (componentsOf path)) := by
  obtain ⟨path, pathSettled, rfl⟩ := exists_settled pathOwn
  obtain ⟨base, baseSettled, rfl⟩ := exists_settled baseOwn
  have nonempty : base.chars ≠ [] := by simpa using filled
  rw [baseSettled.rootOf_chars, pathSettled.rootOf_chars] at slash share
  rw [baseSettled.componentsOf_chars] at plain
  have insides := isInside_iff baseSettled pathSettled nonempty slash share plain
  have found_iff : relativeTo? (String.ofList path.chars) (String.ofList base.chars) = some relative ↔
      ∃ rest, IsInside (String.ofList base.chars) (String.ofList path.chars) rest ∧
        relative = String.ofList (joined rest) := by
    rw [relativeTo?_eq_some_iff]
    simp only [Canonical.liesBelow_iff baseSettled pathSettled filled, insides]
    constructor
    · rintro ⟨own, ⟨agrees, rest, rfl, fits⟩, rfl⟩
      exact ⟨rest, ⟨agrees, fits⟩, intercalate_map_ofList rest⟩
    · rintro ⟨rest, ⟨agrees, fits⟩, rfl⟩
      exact ⟨_, ⟨agrees, rest, rfl, fits⟩, intercalate_map_ofList rest⟩
  refine ⟨found_iff, fun found relativeText bare => ?_⟩
  obtain ⟨rest, inside, rfl⟩ := found_iff.mp found
  obtain ⟨front, whole, same⟩ := ((insides rest).mp inside).2
  have named : ∀ component ∈ rest, Named component := fun component member =>
    pathSettled.named component (whole ▸ List.mem_append_right _ member)
  have alone : base.chars = ['/', '/'] → rest = [] := by
    intro share
    by_contra filled
    exact joined_ne_nil named filled (by simpa using bare (by rw [share]))
  -- What is behind the directory leads nowhere upwards, so joining adds it to the components as it is.
  obtain ⟨normal, undriven⟩ := baseSettled.append nonempty named inside.inward
  have root := inside.root
  rw [baseSettled.rootOf_chars] at root
  rw [normalize_eq, baseSettled.ofChars_join nonempty named inside.inward relativeText alone,
    Canonical.rootOf_chars normal undriven, Canonical.componentsOf_chars normal undriven,
    pathSettled.componentsOf_chars, whole]
  exact ⟨root, List.rel_append same (List.forall₂_same.mpr fun _ _ => rfl)⟩

theorem file_is_inside :
    relativeTo? "C:/Work/App/src/main.cpp" "c:/work/app" = some "src/main.cpp" ∧
    List.Forall₂ Text.Alike (componentsOf (normalize (join "c:/work/app" "src/main.cpp")))
      (componentsOf "C:/Work/App/src/main.cpp") := by
  have settled : canonical "C:/Work/App/src/main.cpp" = "C:/Work/App/src/main.cpp" ∧
      canonical "c:/work/app" = "c:/work/app" := by decide +kernel
  obtain ⟨found, back⟩ := relativeTo?_iff_inside settled.1 settled.2 (by decide) (by decide +kernel) (by decide +kernel)
    (by decide +kernel) "src/main.cpp"
  have inside : IsInside "c:/work/app" "C:/Work/App/src/main.cpp" ["src".toList, "main.cpp".toList] := by
    refine ⟨?_, ⟨["Work".toList, "App".toList], by decide +kernel, ?_⟩, by decide⟩
    · have roots : rootOf "c:/work/app" = .drive 'c' ∧ rootOf "C:/Work/App/src/main.cpp" = .drive 'C' := by
        decide +kernel
      rw [roots.1, roots.2, Root.Same]
      decide
    · have components : componentsOf "c:/work/app" = ["work".toList, "app".toList] := by decide +kernel
      rw [components]
      exact .cons (by rw [Text.Alike]; decide +kernel) (.cons (by rw [Text.Alike]; decide +kernel) .nil)
  have left := found.mpr ⟨_, inside, by decide +kernel⟩
  exact ⟨left, (back left (by decide +kernel) (by decide)).2⟩

/-- What is left may lead out of the directory again, or be that of a path with another root. -/
theorem outer_paths_are_left :
    (relativeTo? "../../x" ".." = some "../x" ∧ ∀ rest, ¬ IsInside ".." "../../x" rest) ∧
    relativeTo? "//a/b" "/a" = some "b" ∧ ∀ rest, ¬ IsInside "/a" "//a/b" rest := by
  refine ⟨⟨by decide +kernel, fun rest inside => ?_⟩, by decide +kernel, fun rest inside => ?_⟩
  · have components : componentsOf ".." = [parent] ∧ componentsOf "../../x" = [parent, parent, ['x']] := by
      decide +kernel
    have front := inside.front
    rw [components.1, components.2, exists_front_cons_iff] at front
    obtain ⟨-, front, whole, same⟩ := front
    rw [List.forall₂_nil_left_iff.mp same, List.nil_append] at whole
    exact inside.inward (whole ▸ List.mem_cons_self)
  · have roots : rootOf "/a" = .slash ∧ rootOf "//a/b" = .share := by decide +kernel
    have same := inside.root
    rw [roots.1, roots.2] at same
    simp [Root.Same] at same

end Listfile.Path
