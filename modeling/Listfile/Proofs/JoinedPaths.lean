import Listfile.Proofs.RelativePaths

/-!
A directory and what is left below it make up a path again, but for the case of the directory.
-/

namespace Listfile.Path

variable {components : List Component} {component : Component}

theorem joined_ne_nil (named : ∀ component ∈ components, Named component) (nonempty : components ≠ []) :
    joined components ≠ [] := by
  obtain ⟨first, rest, rfl⟩ := List.exists_cons_of_ne_nil nonempty
  obtain ⟨c, cs, rfl⟩ := List.exists_cons_of_ne_nil (named first List.mem_cons_self).1
  exact List.ne_nil_of_mem (mem_joined_of_mem List.mem_cons_self List.mem_cons_self)

theorem getLast?_joined (named : ∀ component ∈ components, Named component) :
    (joined components).getLast? ≠ some '/' := by
  induction components with
  | nil => simp [joined]
  | cons first rest ih =>
    rw [List.forall_mem_cons] at named
    by_cases last : rest = []
    · subst last
      rw [joined, List.intercalate_singleton]
      exact fun slash => named.1.2.2 (List.mem_of_getLast? slash)
    · rw [joined_cons first last, List.getLast?_append, List.getLast?_cons_of_ne_nil (joined_ne_nil named.2 last)]
      cases ends : (joined rest).getLast? with
      | none => exact absurd (List.getLast?_eq_none_iff.mp ends) (joined_ne_nil named.2 last)
      | some c => simpa [ends] using ih named.2

theorem stripEnd_of_last {cs : List Char} (last : cs.getLast? ≠ some '/') :
    Text.stripEnd (· = '/') cs = cs := by
  have kept : dropSlashes cs.reverse = cs.reverse := dropSlashes_of_head (by rwa [List.head?_reverse])
  rw [Text.stripEnd, ← dropSlashes, kept, List.reverse_reverse]

theorem splitRoot_slash (cs : List Char) : (splitRoot ('/' :: cs)).1 ≠ .none := by
  match cs with
  | [] => simp [splitRoot]
  | c :: rest => by_cases slash : c = '/' <;> simp [splitRoot, slash]

namespace Canonical

variable {path : Canonical}

/-- A path behind a rooted directory. The bare root of a share loses one of its slashes. -/
theorem ofChars_join (normal : path.Normal) (rooted : path.root ≠ .none)
    (bare : path.root = .share → path.components ≠ []) {cs : List Char} (relative : cs.head? ≠ some '/') :
    ofChars (Text.stripEnd (· = '/') path.chars ++ '/' :: cs) =
      ⟨path.root, collapse path.root (path.components ++ cs.splitOnP (· = '/'))⟩ := by
  by_cases empty : path.components = []
  · have text : Text.stripEnd (· = '/') path.chars ++ '/' :: cs = path.root.chars ++ cs := by
      rw [chars_eq, empty]
      cases root : path.root with
      | none => contradiction
      | slash => simp [Root.chars, joined, Text.stripEnd]
      | share => exact absurd empty (bare root)
      | drive letter => simp [Root.chars, joined, Text.stripEnd]
    rw [ofChars_eq, text, splitRoot_root rooted normal.letter relative, empty, List.nil_append]
  · have filled := joined_ne_nil normal.named empty
    have last : path.chars.getLast? ≠ some '/' := by
      rw [chars_eq, List.getLast?_append_of_ne_nil _ filled]
      exact getLast?_joined normal.named
    have head : (joined path.components ++ '/' :: cs).head? ≠ some '/' := by
      rw [List.head?_append_of_ne_nil _ filled]
      exact head?_joined normal.named
    rw [stripEnd_of_last last, chars_eq, List.append_assoc, ofChars_eq,
      splitRoot_root rooted normal.letter head, List.splitOnP_append_cons _ _ (by simp),
      splitOnP_joined (fun component member => (normal.named component member).2.2) empty]

theorem root_of (text : String) (rooted : isRooted text = true) : (of text).root ≠ .none := by
  have slashes : (Text.slashed text).toList = text.toList.map fun c => if c = '\\' then '/' else c := by
    rw [Text.slashed, Text.replaceChar, String.toList_map]
  rw [of, ofChars_eq, slashes]
  unfold isRooted at rooted
  split at rooted
  next rest starts =>
    rw [starts]
    exact splitRoot_slash _
  next rest starts =>
    rw [starts]
    exact splitRoot_slash _
  next =>
    unfold startsWithDrive at rooted
    split at rooted
    next letter rest starts =>
      have kept : letter ≠ '\\' := by
        rintro rfl
        simp at rooted
      rw [starts, List.map_cons, List.map_cons, if_neg kept, if_neg (by decide)]
      simp [splitRoot, ne_slash_of_isAlpha rooted, rooted]
    next => simp at rooted

end Canonical

/-! The case of a rooted path. -/

def startsWithShare (path : String) : Bool := path.toList.take 2 == ['/', '/']

theorem lowerFrom_root {root : Root} (rooted : root ≠ .none) (cs : List Char) :
    Text.lowerFrom [] (root.chars ++ cs) = Text.lowerFrom [] root.chars ++ Text.lowerFrom [] cs := by
  obtain ⟨front, ends⟩ : ∃ front, root.chars = front ++ ['/'] := by
    cases root with
    | none => contradiction
    | slash => exact ⟨[], rfl⟩
    | share => exact ⟨['/'], rfl⟩
    | drive letter => exact ⟨[letter, ':'], rfl⟩
  have alone := Text.lowerFrom_append_slash [] front []
  rw [ends, List.append_assoc, List.singleton_append, Text.lowerFrom_append_slash, alone, List.append_assoc]
  rfl

namespace Canonical

variable {path : Canonical}

theorem alike_chars {other : Canonical} (rooted : path.root ≠ .none) (rooted' : other.root ≠ .none)
    (roots : Text.Alike path.root.chars other.root.chars)
    (components : List.Forall₂ Text.Alike path.components other.components) :
    Text.Alike path.chars other.chars := by
  have lower : path.components.map (Text.lowerFrom []) = other.components.map (Text.lowerFrom []) := by
    rw [← List.forall₂_eq_eq_eq, List.forall₂_map_left_iff, List.forall₂_map_right_iff]
    exact components
  rw [Text.Alike, chars_eq, chars_eq, lowerFrom_root rooted, lowerFrom_root rooted', roots,
    Text.lowerFrom_joined, Text.lowerFrom_joined, lower]

theorem startsWithShare_chars (normal : path.Normal) :
    startsWithShare (String.ofList path.chars) = true ↔ path.root = .share := by
  have head := head?_joined normal.named
  rw [startsWithShare, String.toList_ofList, chars_eq, beq_iff_eq]
  cases root : path.root with
  | none =>
    cases text : joined path.components with
    | nil => simp [Root.chars]
    | cons c rest =>
      rw [text] at head
      simpa [Root.chars] using fun slash => absurd slash (by simpa using head)
  | slash =>
    cases text : joined path.components with
    | nil => simp [Root.chars]
    | cons c rest =>
      rw [text] at head
      simpa [Root.chars] using head
  | share => simp [Root.chars]
  | drive letter => simp [Root.chars]

theorem ofChars_drive {letter : Char} (alpha : letter.isAlpha = true)
    (normal : Normal ⟨.none, [letter, ':'] :: components⟩) :
    ofChars (joined ([letter, ':'] :: components)) = ⟨.drive letter, components⟩ := by
  by_cases last : components = []
  · subst last
    simp [joined, ofChars_eq, splitRoot, ne_slash_of_isAlpha alpha, alpha, dropSlashes, collapse, push]
  · have rooted : Normal ⟨.drive letter, components⟩ := by
      refine ⟨by simp [alpha], fun component member => normal.named component (List.mem_cons_of_mem _ member),
        (List.pairwise_cons.mp normal.upwards).2, fun _ member => ?_⟩
      have leads := (List.pairwise_cons.mp normal.upwards).1 parent member rfl
      simp [parent] at leads
    rw [joined_cons _ last]
    exact ofChars_chars rooted (by simp)

end Canonical

theorem isRooted_drive {letter : Char} (alpha : letter.isAlpha = true) (cs : List Char) :
    isRooted (String.ofList (letter :: ':' :: cs)) = true := by
  unfold isRooted
  rw [String.toList_ofList]
  split
  next => rfl
  next => rfl
  next => exact alpha

theorem eq_drive_of_alike {outer : Char} (alpha : outer.isAlpha = true)
    (drive : startsWithDrive component = true) (alike : Text.Alike [outer, ':'] component) :
    ∃ inner, inner.isAlpha = true ∧ component = [inner, ':'] := by
  unfold startsWithDrive at drive
  split at drive
  next inner more =>
    have colon : ':'.toNat < 128 := by decide
    rw [Text.Alike, Text.lowerFrom_ascii (Text.toNat_lt_of_isAlpha alpha), Text.lowerFrom_ascii colon,
      Text.lowerFrom_ascii (Text.toNat_lt_of_isAlpha drive), Text.lowerFrom_ascii colon] at alike
    have excess := (List.cons.inj (List.cons.inj alike).2).2
    exact ⟨inner, drive, by rw [Text.lowerFrom_eq_nil excess.symm]⟩
  next => simp at drive

theorem Canonical.ofChars_rootless {path : Canonical} (normal : path.Normal) (rootless : path.root = .none)
    (slashless : '\\' ∉ path.chars) (rooted : isRooted (String.ofList path.chars) = true)
    (split : path.components = component :: components) {outer : Char} (alpha : outer.isAlpha = true)
    (alike : Text.Alike [outer, ':'] component) :
    ∃ inner, component = [inner, ':'] ∧ ofChars path.chars = ⟨.drive inner, components⟩ := by
  obtain ⟨root, parts⟩ := path
  dsimp only at rootless split
  subst rootless split
  have unslashed : startsWithSlash (String.ofList (joined (component :: components))) ≠ true := by
    exact (startsWithSlash_chars normal).not.mpr (by simp)
  have text : chars ⟨.none, component :: components⟩ = joined (component :: components) := rfl
  rw [text] at slashless rooted ⊢
  rw [isRooted_eq (by rwa [String.toList_ofList]), Bool.or_eq_true, or_iff_right unslashed, String.toList_ofList,
    startsWithDrive_joined normal.named] at rooted
  obtain ⟨inner, alpha, rfl⟩ := eq_drive_of_alike alpha rooted alike
  exact ⟨inner, rfl, ofChars_drive alpha normal⟩

section

variable {base path : Canonical} {rest : List String}

theorem LiesBelow.ofChars_of_drive (baseNormal : base.Normal) (pathNormal : path.Normal)
    (slashless : '\\' ∉ path.chars) (below : LiesBelow (String.ofList base.chars) (String.ofList path.chars) rest)
    {outer : Char} (drive : base.root = .drive outer) (fields : path.fields = component :: components)
    (alike : Text.Alike [outer, ':'] component) :
    ∃ inner, component = [inner, ':'] ∧ Canonical.ofChars path.chars = ⟨.drive inner, components⟩ := by
  have alpha := baseNormal.letter outer drive
  have unslashed : ¬ (path.root = .slash ∨ path.root = .share) := by
    rw [← Canonical.startsWithSlash_chars pathNormal, below.slashed, Canonical.startsWithSlash_chars baseNormal]
    simp [drive]
  cases root : path.root with
  | none =>
    rw [Canonical.fields, root] at fields
    have rooted : isRooted (String.ofList path.chars) = true := by
      rw [below.rooted, Canonical.chars_eq, drive]
      exact isRooted_drive alpha _
    exact Canonical.ofChars_rootless pathNormal root slashless rooted fields alpha alike
  | slash => exact absurd (.inl root) unslashed
  | share => exact absurd (.inr root) unslashed
  | drive inner =>
    rw [Canonical.fields, root, List.cons.injEq] at fields
    refine ⟨inner, fields.1.symm, ?_⟩
    rw [Canonical.ofChars_chars pathNormal (by simp [root]), ← fields.2, ← root]

/-- What lies below a rooted directory reads as a rooted path with the directory in front, case aside. A share is
not told from other slashes by what lies below what. -/
theorem LiesBelow.exists_read (baseNormal : base.Normal) (pathNormal : path.Normal) (rooted : base.root ≠ .none)
    (slashless : '\\' ∉ path.chars) (below : LiesBelow (String.ofList base.chars) (String.ofList path.chars) rest)
    (shares : startsWithShare (String.ofList path.chars) = startsWithShare (String.ofList base.chars)) :
    ∃ root front own, rest = own.map String.ofList ∧
      Canonical.ofChars path.chars = ⟨root, front ++ own⟩ ∧ root ≠ .none ∧
      Text.Alike base.root.chars root.chars ∧ List.Forall₂ Text.Alike base.components front := by
  obtain ⟨front, own, fields, left, same⟩ := below.exists_fields baseNormal pathNormal
  by_cases drive : ∃ letter, base.root = .drive letter
  · -- The drive is the first field of both, and the components are aligned behind it.
    obtain ⟨outer, root⟩ := drive
    rw [Canonical.fields, root, List.forall₂_cons_left_iff] at same
    obtain ⟨first, front, alike, same, rfl⟩ := same
    obtain ⟨inner, rfl, read⟩ := below.ofChars_of_drive baseNormal pathNormal slashless root fields alike
    refine ⟨.drive inner, front, own, left, read, by simp, ?_, same⟩
    have behind (letter : Char) : Text.lowerFrom [] (Root.drive letter).chars =
        Text.lowerFrom [] [letter, ':'] ++ ['/'] := Text.lowerFrom_append_slash [] [letter, ':'] []
    rw [Text.Alike, root, behind, behind, alike]
  · -- Without a drive the fields are the components, and the roots have to be told apart by their slashes.
    have slashes : (path.root = .slash ∨ path.root = .share) ↔ (base.root = .slash ∨ base.root = .share) := by
      rw [← Canonical.startsWithSlash_chars pathNormal, below.slashed, Canonical.startsWithSlash_chars baseNormal]
    have share : path.root = .share ↔ base.root = .share := by
      rw [← Canonical.startsWithShare_chars pathNormal, shares, Canonical.startsWithShare_chars baseNormal]
    have equal : path.root = base.root := by
      cases root : base.root <;> cases root' : path.root <;> simp_all
    have undriven {own : Canonical} (same : own.root = base.root) : own.fields = own.components := by
      unfold Canonical.fields
      split
      next letter root => exact absurd ⟨letter, same ▸ root⟩ drive
      next => rfl
    rw [undriven rfl] at same
    rw [undriven equal] at fields
    refine ⟨path.root, front, own, left, ?_, equal ▸ rooted, by rw [equal]; rfl, same⟩
    rw [Canonical.ofChars_chars pathNormal fun rootless => absurd (equal ▸ rootless) rooted, ← fields]

end

/-! The text of a directory joined with what lies below it. -/

theorem canonical_ofList {cs : List Char} (slashless : '\\' ∉ cs) :
    canonical (String.ofList cs) = String.ofList (Canonical.ofChars cs).chars := by
  have kept : Text.slashed (String.ofList cs) = String.ofList cs :=
    slashed_eq_self (by rwa [String.toList_ofList])
  rw [canonical, normalize, kept, String.toList_ofList]

theorem startsWithDrive_of_splitRoot {cs : List Char} (rootless : (splitRoot cs).1 = .none) :
    startsWithDrive cs = false := by
  unfold startsWithDrive
  split
  next letter rest =>
    by_contra alpha
    rw [Bool.not_eq_false] at alpha
    simp [splitRoot, ne_slash_of_isAlpha alpha, alpha] at rootless
  next => rfl

/-- A canonical form may read as a rooted path where it was not one, but that is then its own canonical form. -/
theorem Canonical.ofChars_ofChars (cs : List Char) :
    ofChars (ofChars (ofChars cs).chars).chars = ofChars (ofChars cs).chars := by
  refine ofChars_chars (normal_ofChars _) fun rootless => ?_
  have drive := startsWithDrive_of_splitRoot rootless
  rw [ofChars_chars (normal_ofChars cs) fun _ => drive]
  exact drive

theorem same_canonical (path text : String) :
    same path (canonical (canonical text)) = same path (canonical text) := by
  have slashless := Canonical.backslash_notMem text
  have read : canonical (canonical text) = String.ofList (Canonical.ofChars (Canonical.of text).chars).chars :=
    canonical_ofList slashless
  have slashless' : '\\' ∉ (Canonical.ofChars (Canonical.of text).chars).chars := fun member =>
    (Canonical.mem_of_mem_chars member).elim (by simp) slashless
  have again : canonical (canonical (canonical text)) = canonical (canonical text) := by
    rw [read, canonical_ofList slashless', Canonical.of, Canonical.ofChars_ofChars]
  rw [same, same, again]

def descent (rest : List String) : String := if "/".intercalate rest = "" then "." else "/".intercalate rest

section

variable {root : Root} {own : List Component}

theorem Canonical.Normal.of_parent_notMem
    (letter : ∀ letter, root = .drive letter → letter.isAlpha = true)
    (named : ∀ component ∈ components, Named component) (inside : parent ∉ components) :
    Normal ⟨root, components⟩ where
  letter := letter
  named := named
  upwards := List.pairwise_iff_forall_sublist.mpr fun sublist leads =>
    absurd (leads ▸ sublist.subset (by simp)) inside
  rooted _ := inside

theorem collapse_descent (normal : Canonical.Normal ⟨root, components ++ own⟩) :
    collapse root (components ++ (descent (own.map String.ofList)).toList.splitOnP (· = '/')) =
      components ++ own := by
  have named : ∀ component ∈ own, Named component := fun component member =>
    normal.named component (List.mem_append_right _ member)
  rw [descent, intercalate_map_ofList]
  by_cases empty : own = []
  · subst empty
    rw [List.append_nil] at normal ⊢
    have dot : collapse root (components ++ [['.']]) = collapse root components := by
      simp [collapse, push]
    exact dot.trans (collapse_of_normal normal)
  · have filled : String.ofList (joined own) ≠ "" := by
      simpa using joined_ne_nil named empty
    rw [if_neg filled, String.toList_ofList,
      splitOnP_joined (fun component member => (named component member).2.2) empty, collapse_of_normal normal]

end

theorem toList_join {base relative : String} (relativeText : isRooted relative = false) (base_ne : base ≠ "")
    (relative_ne : relative ≠ "") :
    (join base relative).toList = Text.stripEnd (· = '/') base.toList ++ '/' :: relative.toList := by
  rw [join, if_neg (by simp [relativeText, base_ne]), if_neg relative_ne]
  simp

theorem isRooted_descent {rest : List String} (relative : isRooted ("/".intercalate rest) = false) :
    isRooted (descent rest) = false := by
  rw [descent]
  split
  next => rfl
  next => exact relative

theorem descent_ne (rest : List String) : descent rest ≠ "" := by
  rw [descent]
  split
  next => simp
  next filled => exact filled

theorem LiesBelow.backslash_notMem {base path : String} {rest : List String}
    (below : LiesBelow (canonical base) (canonical path) rest) : '\\' ∉ (descent rest).toList := by
  obtain ⟨own, -, rfl, -, slashless⟩ := below.exists_own
  rw [descent, intercalate_map_ofList]
  split
  next => decide
  next => rwa [String.toList_ofList]

theorem head?_of_isRooted {path : String} (relative : isRooted path = false) : path.toList.head? ≠ some '/' := by
  intro head
  obtain ⟨rest, starts⟩ := List.head?_eq_some_iff.mp head
  simp [isRooted, starts] at relative

theorem toList_canonical (text : String) : (canonical text).toList = (Canonical.of text).chars :=
  String.toList_ofList

section

variable {base path : String} {rest : List String}

theorem LiesBelow.canonical_join (rooted : isRooted base = true)
    (below : LiesBelow (canonical base) (canonical path) rest) (bare : canonical base ≠ "//")
    (relative : isRooted ("/".intercalate rest) = false) {own : List Component}
    (left : rest = own.map String.ofList)
    (normal : Canonical.Normal ⟨(Canonical.of base).root, (Canonical.of base).components ++ own⟩) :
    canonical (join (canonical base) (descent rest)) = String.ofList
      (Canonical.chars ⟨(Canonical.of base).root, (Canonical.of base).components ++ own⟩) := by
  -- The bare root of a share would lose a slash.
  have shareNamed : (Canonical.of base).root = .share → (Canonical.of base).components ≠ [] := by
    intro share empty
    refine bare ?_
    show String.ofList (Canonical.of base).chars = "//"
    rw [Canonical.chars_eq, share, empty]
    rfl
  have text : (join (canonical base) (descent rest)).toList =
      Text.stripEnd (· = '/') (Canonical.of base).chars ++ '/' :: (descent rest).toList := by
    rw [toList_join (isRooted_descent relative) below.filled (descent_ne rest), toList_canonical]
  have slashless : '\\' ∉ (join (canonical base) (descent rest)).toList := by
    rw [text, List.mem_append, List.mem_cons]
    rintro (member | slash | member)
    · exact Canonical.backslash_notMem base (mem_of_mem_stripEnd member)
    · simp at slash
    · exact below.backslash_notMem member
  rw [← String.ofList_toList (s := join _ _), canonical_ofList slashless, text,
    Canonical.ofChars_join (Canonical.normal_of base) (Canonical.root_of base rooted) shareNamed
      (head?_of_isRooted (isRooted_descent relative)), left, collapse_descent normal]

theorem LiesBelow.same_join (rooted : isRooted base = true)
    (below : LiesBelow (canonical base) (canonical path) rest)
    (shares : startsWithShare (canonical path) = startsWithShare (canonical base))
    (bare : canonical base ≠ "//") (relative : isRooted ("/".intercalate rest) = false) :
    same (join (canonical base) (descent rest)) (canonical path) = true := by
  have baseNormal := Canonical.normal_of base
  have baseRooted := Canonical.root_of base rooted
  have slashless := Canonical.backslash_notMem path
  obtain ⟨root, front, own, left, read, pathRooted, roots, fronts⟩ :=
    below.exists_read baseNormal (Canonical.normal_of path) baseRooted slashless shares
  have readNormal : Canonical.Normal ⟨root, front ++ own⟩ := read ▸ Canonical.normal_ofChars _
  have normal : Canonical.Normal ⟨(Canonical.of base).root, (Canonical.of base).components ++ own⟩ := by
    refine .of_parent_notMem baseNormal.letter (fun component member => ?_) fun member => ?_
    · rcases List.mem_append.mp member with member | member
      · exact baseNormal.named component member
      · exact readNormal.named component (List.mem_append_right _ member)
    · rcases List.mem_append.mp member with member | member
      · exact baseNormal.rooted baseRooted member
      · exact readNormal.rooted pathRooted (List.mem_append_right _ member)
  have components : List.Forall₂ Text.Alike ((Canonical.of base).components ++ own) (front ++ own) :=
    List.rel_append fronts (List.forall₂_same.mpr fun _ _ => rfl)
  have reading : canonical (canonical path) = String.ofList (Canonical.chars ⟨root, front ++ own⟩) := by
    rw [← read]
    exact canonical_ofList slashless
  rw [same, below.canonical_join rooted bare relative left normal, reading, Text.sameIgnoringCase_iff,
    String.toList_ofList, String.toList_ofList]
  exact Canonical.alike_chars baseRooted pathRooted roots components

end

end Listfile.Path
