import Listfile.Path
import Mathlib.Data.List.Forall2

/-!
Canonical paths: what their components look like, that they read back as themselves, and that nothing but slashes
comes into them.
-/

namespace Listfile.Path

/-! Fields between slashes. -/

theorem mem_of_mem_splitOnP {p : Char → Bool} {cs part : List Char} (member : part ∈ cs.splitOnP p) :
    ∀ c ∈ part, c ∈ cs ∧ p c = false := by
  induction cs generalizing part with
  | nil =>
    rw [List.splitOnP_nil, List.mem_singleton] at member
    simp [member]
  | cons first rest ih =>
    rw [List.splitOnP_cons_eq_if_modifyHead] at member
    split at member
    next =>
      rcases List.mem_cons.mp member with rfl | member
      · simp
      · intro c inside
        exact ⟨List.mem_cons_of_mem _ (ih member c inside).1, (ih member c inside).2⟩
    next other =>
      cases split : rest.splitOnP p with
      | nil => exact absurd split (List.splitOnP_ne_nil p rest)
      | cons head tail =>
        rw [split] at ih member
        intro c inside
        rcases List.mem_cons.mp member with rfl | member
        · rcases List.mem_cons.mp inside with rfl | inside
          · simpa using other
          · have both := ih List.mem_cons_self c inside
            exact ⟨List.mem_cons_of_mem _ both.1, both.2⟩
        · have both := ih (List.mem_cons_of_mem _ member) c inside
          exact ⟨List.mem_cons_of_mem _ both.1, both.2⟩

def Named (component : Component) : Prop := component ≠ [] ∧ component ≠ ['.'] ∧ '/' ∉ component

def joined (components : List Component) : List Char := ['/'].intercalate components

theorem splitOnP_joined {components : List Component} (slashless : ∀ component ∈ components, '/' ∉ component)
    (nonempty : components ≠ []) : (joined components).splitOnP (· = '/') = components := by
  have split := List.splitOn_intercalate '/' slashless nonempty
  rw [List.splitOn_eq_splitOnP] at split
  simpa [joined, beq_eq_decide] using split

theorem joined_cons (first : Component) {rest : List Component} (nonempty : rest ≠ []) :
    joined (first :: rest) = first ++ '/' :: joined rest := by
  simp [joined, List.intercalate_cons_of_ne_nil nonempty]

theorem mem_joined {components : List Component} {c : Char} (member : c ∈ joined components) :
    c = '/' ∨ ∃ component ∈ components, c ∈ component := by
  induction components with
  | nil => simp [joined] at member
  | cons first rest ih =>
    by_cases last : rest = []
    · subst last
      rw [joined, List.intercalate_singleton] at member
      exact .inr ⟨first, List.mem_cons_self, member⟩
    · rw [joined_cons first last, List.mem_append, List.mem_cons] at member
      rcases member with inside | rfl | inside
      · exact .inr ⟨first, List.mem_cons_self, inside⟩
      · exact .inl rfl
      · rcases ih inside with slash | ⟨component, member, inside⟩
        · exact .inl slash
        · exact .inr ⟨component, List.mem_cons_of_mem _ member, inside⟩

theorem mem_joined_of_mem {components : List Component} {component : Component}
    (member : component ∈ components) {c : Char} (inside : c ∈ component) : c ∈ joined components := by
  induction components with
  | nil => simp at member
  | cons first rest ih =>
    by_cases last : rest = []
    · subst last
      rw [joined, List.intercalate_singleton]
      exact List.mem_singleton.mp member ▸ inside
    · rw [joined_cons first last]
      rcases List.mem_cons.mp member with rfl | member
      · exact List.mem_append_left _ inside
      · exact List.mem_append_right _ (List.mem_cons_of_mem _ (ih member))

/-! The shape of canonical paths. -/

structure Canonical.Normal (path : Canonical) : Prop where
  letter : ∀ letter, path.root = .drive letter → letter.isAlpha = true
  named : ∀ component ∈ path.components, Named component
  /-- Only what leads upwards itself stands before a component that leads upwards. -/
  upwards : path.components.Pairwise fun earlier later => later = parent → earlier = parent
  rooted : path.root ≠ .none → parent ∉ path.components

variable {root : Root} {components : List Component} {component : Component}

namespace Canonical.Normal

theorem of_sublist (normal : Normal ⟨root, components⟩) {kept : List Component}
    (sublist : kept.Sublist components) : Normal ⟨root, kept⟩ where
  letter := normal.letter
  named component member := normal.named component (sublist.subset member)
  upwards := normal.upwards.sublist sublist
  rooted rooted member := normal.rooted rooted (sublist.subset member)

theorem snoc (normal : Normal ⟨root, components⟩) (named : Named component)
    (upwards : component = parent → root = .none ∧ ∀ earlier ∈ components, earlier = parent) :
    Normal ⟨root, components ++ [component]⟩ where
  letter := normal.letter
  named other member := by
    rcases List.mem_append.mp member with member | member
    · exact normal.named other member
    · exact List.mem_singleton.mp member ▸ named
  upwards := by
    refine List.pairwise_append.mpr ⟨normal.upwards, List.pairwise_singleton _ _, ?_⟩
    intro earlier member later last isParent
    exact (upwards (List.mem_singleton.mp last ▸ isParent)).2 earlier member
  rooted rooted member := by
    rcases List.mem_append.mp member with member | member
    · exact normal.rooted rooted member
    · exact rooted (upwards (List.mem_singleton.mp member).symm).1

theorem of_snoc_parent (normal : Normal ⟨root, components ++ [parent]⟩) :
    root = .none ∧ ∀ earlier ∈ components, earlier = parent := by
  refine ⟨?_, fun earlier member => ?_⟩
  · by_contra rooted
    exact normal.rooted rooted (List.mem_append_right _ (List.mem_singleton_self _))
  · exact (List.pairwise_append.mp normal.upwards).2.2 earlier member parent (List.mem_singleton_self _) rfl

end Canonical.Normal

theorem normal_push (slashless : '/' ∉ component) {stack : List Component}
    (normal : Canonical.Normal ⟨root, stack.reverse⟩) :
    Canonical.Normal ⟨root, (push root stack component).reverse⟩ := by
  have up : Named parent := by simp [Named, parent]
  unfold push
  split
  next => exact normal
  next void =>
    simp only [Bool.or_eq_true, decide_eq_true_eq, not_or] at void
    split
    next =>
      cases stack with
      | nil =>
        dsimp only
        split
        next relative => exact normal.snoc up fun _ => ⟨relative, by simp⟩
        next => exact normal
      | cons top below =>
        rw [List.reverse_cons] at normal
        dsimp only
        split
        next => exact normal.of_sublist (List.sublist_append_left _ _)
        next isTop =>
          -- Two components that lead upwards stand together, which is fine only without a root.
          rw [not_not] at isTop
          subst isTop
          split
          next =>
            rw [List.reverse_cons, List.reverse_cons]
            obtain ⟨relative, all⟩ := normal.of_snoc_parent
            refine normal.snoc up fun _ => ⟨relative, fun earlier member => ?_⟩
            rcases List.mem_append.mp member with member | member
            · exact all earlier member
            · exact List.mem_singleton.mp member
          next => exact List.reverse_cons ▸ normal
    next other =>
      rw [List.reverse_cons]
      exact normal.snoc ⟨void.1, void.2, slashless⟩ fun isParent => absurd isParent other

theorem normal_collapse (letter : ∀ letter, root = .drive letter → letter.isAlpha = true)
    (slashless : ∀ component ∈ components, '/' ∉ component) :
    Canonical.Normal ⟨root, collapse root components⟩ := by
  have step (stack : List Component) (normal : Canonical.Normal ⟨root, stack.reverse⟩) :
      Canonical.Normal ⟨root, (components.foldl (push root) stack).reverse⟩ := by
    induction components generalizing stack with
    | nil => exact normal
    | cons first rest ih =>
      rw [List.forall_mem_cons] at slashless
      exact ih slashless.2 _ (normal_push slashless.1 normal)
  exact step [] ⟨letter, by simp, by simp, by simp⟩

theorem foldl_push {stack : List Component}
    (normal : Canonical.Normal ⟨root, stack.reverse ++ components⟩) :
    components.foldl (push root) stack = components.reverse ++ stack := by
  induction components generalizing stack with
  | nil => rfl
  | cons first rest ih =>
    have named := normal.named first (by simp)
    have pushed : push root stack first = first :: stack := by
      have initial : Canonical.Normal ⟨root, stack.reverse ++ [first]⟩ :=
        normal.of_sublist (by simp)
      unfold push
      rw [if_neg (by simp [named.1, named.2.1])]
      split
      next isParent =>
        subst isParent
        obtain ⟨relative, all⟩ := initial.of_snoc_parent
        cases stack with
        | nil => simp [relative]
        | cons top below => simp [relative, all top (by simp)]
      next => rfl
    rw [List.foldl_cons, pushed, ih (by simpa using normal), List.reverse_cons, List.append_assoc,
      List.singleton_append]

theorem collapse_of_normal (normal : Canonical.Normal ⟨root, components⟩) :
    collapse root components = components := by
  rw [collapse, foldl_push normal, List.append_nil, List.reverse_reverse]

/-! Reading and writing a canonical path. -/

theorem dropSlashes_of_head {cs : List Char} (head : cs.head? ≠ some '/') : dropSlashes cs = cs := by
  cases cs with
  | nil => rfl
  | cons first rest =>
    have other : first ≠ '/' := by simpa using head
    simp [dropSlashes, other]

theorem head?_joined (named : ∀ component ∈ components, Named component) :
    (joined components).head? ≠ some '/' := by
  cases components with
  | nil => simp [joined]
  | cons first rest =>
    obtain ⟨nonempty, -, slashless⟩ := named first List.mem_cons_self
    obtain ⟨c, cs, rfl⟩ := List.exists_cons_of_ne_nil nonempty
    have other : c ≠ '/' := fun same => slashless (same ▸ List.mem_cons_self)
    by_cases last : rest = []
    · simpa [last, joined] using other
    · simpa [joined_cons _ last] using other

def Root.chars : Root → List Char
  | .none => []
  | .slash => ['/']
  | .share => ['/', '/']
  | .drive letter => [letter, ':', '/']

theorem Canonical.chars_eq (path : Canonical) : path.chars = path.root.chars ++ joined path.components := by
  obtain ⟨root, components⟩ := path
  cases root <;> rfl

theorem splitRoot_none {cs : List Char} (head : cs.head? ≠ some '/') (drive : startsWithDrive cs = false) :
    splitRoot cs = (.none, cs) := by
  unfold splitRoot
  split
  next => simp at head
  next => simp at head
  next letter rest => simp_all [startsWithDrive]
  next => rfl

theorem ne_slash_of_isAlpha {c : Char} (alpha : c.isAlpha = true) : c ≠ '/' := by
  rintro rfl
  simp at alpha

theorem splitRoot_root (rooted : root ≠ .none) (letter : ∀ letter, root = .drive letter → letter.isAlpha = true)
    {cs : List Char} (head : cs.head? ≠ some '/') : splitRoot (root.chars ++ cs) = (root, cs) := by
  have dropped := dropSlashes_of_head head
  cases root with
  | none => contradiction
  | slash =>
    cases cs with
    | nil => rfl
    | cons first rest =>
      have other : first ≠ '/' := by simpa using head
      simp [Root.chars, splitRoot, other, dropped]
  | share => simp [Root.chars, splitRoot, dropped]
  | drive c =>
    have behind : dropSlashes ('/' :: cs) = cs := dropped
    simp [Root.chars, splitRoot, ne_slash_of_isAlpha (letter c rfl), letter c rfl, behind]

theorem letter_of_splitRoot {cs : List Char} {c : Char} (drive : (splitRoot cs).1 = .drive c) :
    c.isAlpha = true := by
  unfold splitRoot at drive
  split at drive
  next => simp at drive
  next => simp at drive
  next =>
    split at drive
    next alpha => simp_all
    next => simp at drive
  next => simp at drive

namespace Canonical

theorem ofChars_eq (cs : List Char) :
    ofChars cs = ⟨(splitRoot cs).1, collapse (splitRoot cs).1 ((splitRoot cs).2.splitOnP (· = '/'))⟩ := rfl

theorem normal_ofChars (cs : List Char) : (ofChars cs).Normal := by
  rw [ofChars_eq]
  refine normal_collapse (fun _ drive => letter_of_splitRoot drive) fun component member slash => ?_
  simpa using (mem_of_mem_splitOnP member '/' slash).2

variable {path : Canonical}

theorem collapse_splitOnP_joined (normal : path.Normal) :
    collapse path.root ((joined path.components).splitOnP (· = '/')) = path.components := by
  by_cases empty : path.components = []
  · simp [empty, joined, collapse, push]
  · rw [splitOnP_joined (fun component member => (normal.named component member).2.2) empty,
      collapse_of_normal normal]

theorem splitRoot_chars (normal : path.Normal)
    (relative : path.root = .none → startsWithDrive path.chars = false) :
    splitRoot path.chars = (path.root, joined path.components) := by
  have head := head?_joined normal.named
  rw [chars_eq] at relative ⊢
  by_cases rootless : path.root = .none
  · rw [rootless] at relative ⊢
    exact splitRoot_none head (relative rfl)
  · exact splitRoot_root rootless normal.letter head

/-- A canonical path reads back as itself, unless it has no root but looks as if it had a drive. -/
theorem ofChars_chars (normal : path.Normal)
    (relative : path.root = .none → startsWithDrive path.chars = false) :
    ofChars path.chars = path := by
  rw [ofChars_eq, splitRoot_chars normal relative, collapse_splitOnP_joined normal]

/-- A drive is a component of its own where a path is taken apart. -/
def fields (path : Canonical) : List Component :=
  match path.root with
  | .drive letter => [letter, ':'] :: path.components
  | _ => path.components

theorem splitOnP_chars (normal : path.Normal) :
    (path.chars.splitOnP (· = '/')).filter (· ≠ []) = path.fields := by
  have kept : path.components.filter (· ≠ []) = path.components :=
    List.filter_eq_self.mpr fun component member => by simpa using (normal.named component member).1
  have rest : ((joined path.components).splitOnP (· = '/')).filter (· ≠ []) = path.components := by
    by_cases empty : path.components = []
    · simp [empty, joined]
    · rw [splitOnP_joined (fun component member => (normal.named component member).2.2) empty, kept]
  rw [chars_eq]
  obtain ⟨root, components⟩ := path
  cases root with
  | none => exact rest
  | slash => simpa [Root.chars, fields, List.splitOnP_cons_eq_if_modifyHead] using rest
  | share => simpa [Root.chars, fields, List.splitOnP_cons_eq_if_modifyHead] using rest
  | drive c =>
    have other := ne_slash_of_isAlpha (normal.letter c rfl)
    have cut : ([c, ':'] ++ '/' :: joined components).splitOnP (· = '/') =
        [c, ':'] :: (joined components).splitOnP (· = '/') :=
      List.splitOnP_append_cons_of_forall_mem (by simp [other]) '/' (by simp) _
    show (([c, ':'] ++ '/' :: joined components).splitOnP (· = '/')).filter (· ≠ []) = _
    rw [cut, List.filter_cons_of_pos (by simp), rest]
    rfl

theorem parts_chars (normal : path.Normal) :
    parts (String.ofList path.chars) = path.fields.map String.ofList := by
  rw [← splitOnP_chars normal, parts, Text.fields, List.filter_map, String.toList_ofList]
  congr 2
  funext field
  simp

end Canonical

/-! How a text starts. -/

theorem isRooted_eq {path : String} (slashed : '\\' ∉ path.toList) :
    isRooted path = (startsWithSlash path || startsWithDrive path.toList) := by
  unfold isRooted startsWithSlash
  split
  next text => simp [text]
  next text => simp [text] at slashed
  next slash _ =>
    have other : path.toList.head? ≠ some '/' := by
      intro head
      obtain ⟨rest, text⟩ := List.head?_eq_some_iff.mp head
      exact slash rest text
    simp [other]

theorem startsWithDrive_joined (named : ∀ component ∈ components, Named component) :
    startsWithDrive (joined components) = startsWithDrive (components.headD []) := by
  cases components with
  | nil => rfl
  | cons first rest =>
    by_cases last : rest = []
    · simp [last, joined]
    · rw [joined_cons first last]
      obtain ⟨nonempty, -, -⟩ := named first List.mem_cons_self
      match first with
      | [] => contradiction
      | [c] => simp [startsWithDrive]
      | c :: second :: more => by_cases colon : second = ':' <;> simp [startsWithDrive, colon]

namespace Canonical

variable {path : Canonical}

theorem startsWithSlash_chars (normal : path.Normal) :
    startsWithSlash (String.ofList path.chars) = true ↔ path.root = .slash ∨ path.root = .share := by
  have head := head?_joined normal.named
  rw [startsWithSlash, String.toList_ofList, chars_eq, beq_iff_eq]
  cases root : path.root with
  | none => simpa [Root.chars] using head
  | slash => simp [Root.chars]
  | share => simp [Root.chars]
  | drive c => simpa [Root.chars] using ne_slash_of_isAlpha (normal.letter c root)

end Canonical

/-! Nothing but slashes comes into a canonical path. -/

theorem mem_push {stack : List Component} {other : Component} (member : other ∈ push root stack component) :
    other = component ∨ other ∈ stack := by
  unfold push at member
  split at member
  next => exact .inr member
  next =>
    split at member
    next isParent =>
      split at member
      next => split at member <;> simp_all
      next =>
        split at member
        next => exact .inr (List.mem_cons_of_mem _ member)
        next =>
          split at member
          next => exact (List.mem_cons.mp member).imp (·.trans isParent.symm) id
          next => exact .inr member
    next => exact List.mem_cons.mp member

theorem mem_foldl_push {stack : List Component} (member : component ∈ components.foldl (push root) stack) :
    component ∈ stack ∨ component ∈ components := by
  induction components generalizing stack with
  | nil => exact .inl member
  | cons first rest ih =>
    rcases ih member with inside | inside
    · rcases mem_push inside with rfl | inside
      · exact .inr List.mem_cons_self
      · exact .inl inside
    · exact .inr (List.mem_cons_of_mem _ inside)

theorem mem_collapse (member : component ∈ collapse root components) : component ∈ components := by
  simpa using mem_foldl_push (List.mem_reverse.mp member)

theorem splitRoot_cases (cs : List Char) :
    (splitRoot cs).2.Sublist cs ∧ ∀ c, (splitRoot cs).1 = .drive c → c ∈ cs ∧ ':' ∈ cs := by
  have dropped (rest : List Char) : (dropSlashes rest).Sublist rest := List.dropWhile_sublist _
  unfold splitRoot
  split
  next rest => exact ⟨((dropped rest).cons _).cons _, by simp⟩
  next rest _ => exact ⟨(dropped rest).cons _, by simp⟩
  next letter rest _ =>
    split
    next => exact ⟨((dropped rest).cons _).cons _, by simp_all⟩
    next => exact ⟨List.Sublist.refl _, by simp⟩
  next => exact ⟨List.Sublist.refl _, by simp⟩

theorem Canonical.mem_of_mem_chars {cs : List Char} {c : Char} (member : c ∈ (ofChars cs).chars) :
    c = '/' ∨ c ∈ cs := by
  obtain ⟨sublist, drive⟩ := splitRoot_cases cs
  rw [chars_eq, ofChars_eq, List.mem_append] at member
  rcases member with inRoot | inside
  · dsimp only at inRoot
    cases root : (splitRoot cs).1 with
    | none => simp [root, Root.chars] at inRoot
    | slash => simp [root, Root.chars] at inRoot; exact .inl inRoot
    | share => simp [root, Root.chars] at inRoot; exact .inl inRoot
    | drive letter =>
      obtain ⟨letterInside, colonInside⟩ := drive letter root
      simp only [root, Root.chars, List.mem_cons, List.not_mem_nil, or_false] at inRoot
      rcases inRoot with rfl | rfl | rfl
      · exact .inr letterInside
      · exact .inr colonInside
      · exact .inl rfl
  · rcases mem_joined inside with slash | ⟨component, stays, inside⟩
    · exact .inl slash
    · exact .inr (sublist.subset (mem_of_mem_splitOnP (mem_collapse stays) c inside).1)

end Listfile.Path
