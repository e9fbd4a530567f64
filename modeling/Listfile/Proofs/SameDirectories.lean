import Listfile.Proofs.JoinedPaths
import Listfile.Proofs.Traversal

/-!
Texts of paths that lead to the same directory, component by component and whatever the case of their letters. A
directory and what is left of a path below it do so together.
-/

namespace Listfile

namespace Text

/-! Letters without regard to their case. -/

/-- Lower case, where a sigma that ends a word is written as any other. -/
def folded (cs : List Char) : List Char := (lowerFrom [] cs).map fun c => if c = 'ς' then 'σ' else c

def SameLetters (first second : List Char) : Prop := folded first = folded second

theorem Alike.sameLetters {first second : List Char} (alike : Alike first second) : SameLetters first second :=
  congrArg (List.map _) alike

def foldedChar (c : Char) : List Char := (lowerChar c).map fun c => if c = 'ς' then 'σ' else c

theorem map_lowerFrom (before cs : List Char) :
    (lowerFrom before cs).map (fun c => if c = 'ς' then 'σ' else c) = cs.flatMap foldedChar := by
  have sigma : foldedChar 'Σ' = ['σ'] := by decide +kernel
  induction cs generalizing before with
  | nil => rfl
  | cons c rest ih =>
    rw [lowerFrom, List.map_append, ih, List.flatMap_cons]
    congr 1
    split
    next capital =>
      rw [capital, sigma]
      split <;> rfl
    next => rfl

theorem folded_eq (cs : List Char) : folded cs = cs.flatMap foldedChar := map_lowerFrom [] cs

theorem folded_cons (c : Char) (cs : List Char) : folded (c :: cs) = foldedChar c ++ folded cs := by
  rw [folded_eq, folded_eq, List.flatMap_cons]

theorem forall_ascii (holds : Char → Prop) (each : ∀ n < 128, holds (Char.ofNat n)) {c : Char}
    (ascii : c.toNat < 128) : holds c := by
  have own := each c.toNat ascii
  rwa [Char.ofNat_toNat] at own

theorem foldedChar_ascii {c : Char} (ascii : c.toNat < 128) : foldedChar c = [c.toLower] := by
  have plain : c.toLower ≠ 'ς' := forall_ascii (·.toLower ≠ 'ς') (by decide +kernel) ascii
  rw [foldedChar, lowerChar, if_pos ascii, List.map_singleton, if_neg plain]

theorem foldedChar_ne_nil (c : Char) : foldedChar c ≠ [] := by
  simpa [foldedChar] using lowerChar_ne_nil c

theorem eq_point_of_mem_lowerChar {c : Char} (member : '.' ∈ lowerChar c) : c = '.' := by
  have sequences : ∀ entry ∈ lowerSequences, '.' ∉ entry.2.map Char.ofNat := by decide +kernel
  have runs : ∀ run ∈ lowerRuns, '.'.toNat < run.first + run.shift := by decide +kernel
  unfold lowerChar at member
  split at member
  next ascii =>
    have own := forall_ascii (fun c => '.' ∈ [c.toLower] → c = '.') (by decide +kernel) ascii
    exact own member
  next =>
    unfold mapCase at member
    dsimp only at member
    split at member
    next codes found =>
      obtain ⟨before, after, table, -⟩ := List.lookup_eq_some_iff.mp found
      exact absurd member (sequences (c.toNat, codes) (by rw [table]; simp))
    next =>
      split at member
      next run found =>
        have within := List.find?_some found
        simp only [Bool.and_eq_true, decide_eq_true_eq] at within
        have value := ofNat_eq (List.mem_singleton.mp member).symm (by decide)
        have bound := runs run (List.mem_of_find?_eq_some found)
        omega
      next => exact (List.mem_singleton.mp member).symm

theorem eq_point_of_mem_foldedChar {c : Char} (member : '.' ∈ foldedChar c) : c = '.' := by
  obtain ⟨own, inside, same⟩ := List.mem_map.mp member
  split at same
  next => exact absurd same (by decide)
  next =>
    subst same
    exact eq_point_of_mem_lowerChar inside

theorem folded_eq_points_iff {cs points : List Char} (all : ∀ c ∈ points, c = '.') :
    folded cs = points ↔ cs = points := by
  have point : foldedChar '.' = ['.'] := by decide +kernel
  induction cs generalizing points with
  | nil => rfl
  | cons c rest ih =>
    rw [folded_cons]
    constructor
    · rintro rfl
      obtain ⟨first, others, own⟩ := List.exists_cons_of_ne_nil (foldedChar_ne_nil c)
      have isPoint : c = '.' := by
        refine eq_point_of_mem_foldedChar ?_
        have head := all first (by rw [own]; simp)
        rw [own, head]
        exact List.mem_cons_self
      subst isPoint
      rw [point, List.singleton_append, List.cons.injEq]
      exact ⟨rfl, (ih fun c member => all c (List.mem_append_right _ member)).mp rfl⟩
    · rintro rfl
      rw [List.forall_mem_cons] at all
      obtain ⟨rfl, others⟩ := all
      rw [point, (ih others).mpr rfl, List.singleton_append]

theorem SameLetters.eq_points_iff {first second points : List Char} (same : SameLetters first second)
    (all : ∀ c ∈ points, c = '.') : first = points ↔ second = points := by
  rw [← folded_eq_points_iff all, same, folded_eq_points_iff all]

end Text

namespace Path

open Text

/-! The components that a text is made of. -/

def segments (cs : List Char) : List Component := (cs.splitOnP (· = '/')).filter (· ≠ [])

theorem segments_append_slash (front behind : List Char) :
    segments (front ++ '/' :: behind) = segments front ++ segments behind := by
  rw [segments, List.splitOnP_append_cons _ _ (by simp), List.filter_append]
  rfl

theorem segments_slash (cs : List Char) : segments ('/' :: cs) = segments cs := segments_append_slash [] cs

theorem segments_dropSlashes (cs : List Char) : segments (dropSlashes cs) = segments cs := by
  induction cs with
  | nil => rfl
  | cons c rest ih =>
    by_cases slash : c = '/'
    · subst slash
      rw [segments_slash, ← ih]
      rfl
    · rw [dropSlashes_of_head (by simpa using slash)]

theorem segments_drive {letter : Char} (other : letter ≠ '/') (cs : List Char) :
    ∃ head tail, segments (letter :: ':' :: cs) = (letter :: ':' :: head) :: tail ∧
      segments cs = if head = [] then tail else head :: tail := by
  obtain ⟨head, tail, cut⟩ := List.exists_cons_of_ne_nil (List.splitOnP_ne_nil (· = '/') cs)
  refine ⟨head, tail.filter (· ≠ []), ?_, ?_⟩
  · simp [segments, List.splitOnP_cons_eq_if_modifyHead, other, cut]
  · by_cases empty : head = [] <;> simp [segments, cut, empty]

theorem slash_notMem_of_mem_segments {cs : List Char} {component : Component} (member : component ∈ segments cs) :
    component ≠ [] ∧ '/' ∉ component := by
  rw [segments, List.mem_filter] at member
  exact ⟨by simpa using member.2, fun slash => by simpa using (mem_of_mem_splitOnP member.1 _ slash).2⟩

theorem collapse_segments (root : Root) (cs : List Char) :
    collapse root (cs.splitOnP (· = '/')) = collapse root (segments cs) := by
  have step (stack components : List Component) :
      components.foldl (push root) stack = (components.filter (· ≠ [])).foldl (push root) stack := by
    induction components generalizing stack with
    | nil => rfl
    | cons component rest ih =>
      by_cases empty : component = []
      · rw [List.filter_cons_of_neg (by simpa using empty), List.foldl_cons, ← ih, empty]
        rfl
      · rw [List.filter_cons_of_pos (by simpa using empty), List.foldl_cons, List.foldl_cons, ih]
  rw [collapse, step]
  rfl

theorem ofChars_share (cs : List Char) :
    Canonical.ofChars ('/' :: '/' :: cs) = ⟨.share, collapse .share (segments cs)⟩ := by
  rw [Canonical.ofChars_eq]
  simp only [splitRoot, collapse_segments, segments_dropSlashes]

theorem ofChars_slash {cs : List Char} (single : cs.head? ≠ some '/') :
    Canonical.ofChars ('/' :: cs) = ⟨.slash, collapse .slash (segments cs)⟩ := by
  have split : splitRoot ('/' :: cs) = (.slash, dropSlashes cs) := by
    cases cs with
    | nil => rfl
    | cons c rest =>
      have other : c ≠ '/' := by simpa using single
      simp [splitRoot, other]
  rw [Canonical.ofChars_eq, split, collapse_segments, segments_dropSlashes]

theorem exists_ofChars_slash (cs : List Char) : ∃ root, (root = .slash ∨ root = .share) ∧
    Canonical.ofChars ('/' :: cs) = ⟨root, collapse root (segments cs)⟩ := by
  by_cases double : cs.head? = some '/'
  · obtain ⟨rest, rfl⟩ := List.head?_eq_some_iff.mp double
    exact ⟨.share, .inr rfl, by rw [ofChars_share, segments_slash]⟩
  · exact ⟨.slash, .inl rfl, ofChars_slash double⟩

theorem ofChars_drive {letter : Char} (alpha : letter.isAlpha = true) (cs : List Char) :
    Canonical.ofChars (letter :: ':' :: cs) = ⟨.drive letter, collapse (.drive letter) (segments cs)⟩ := by
  have split : splitRoot (letter :: ':' :: cs) = (.drive letter, dropSlashes cs) := by
    simp [splitRoot, ne_slash_of_isAlpha alpha, alpha]
  rw [Canonical.ofChars_eq, split, collapse_segments, segments_dropSlashes]

theorem ofChars_rootless {cs : List Char} (head : cs.head? ≠ some '/') (drive : startsWithDrive cs = false) :
    Canonical.ofChars cs = ⟨.none, collapse .none (segments cs)⟩ := by
  rw [Canonical.ofChars_eq, splitRoot_none head drive, collapse_segments]

/-! Paths that differ in case only. -/

/-- Whether two roots are the same, whatever the case of a drive and the number of slashes. -/
def Root.Agrees : Root → Root → Prop
  | .none, .none => True
  | .drive first, .drive second => first.toLower = second.toLower
  | first, second => (first = .slash ∨ first = .share) ∧ (second = .slash ∨ second = .share)

structure Canonical.Agrees (first second : Canonical) : Prop where
  root : first.root.Agrees second.root
  components : List.Forall₂ SameLetters first.components second.components

/-- Whether two texts are read as the same path, whatever its case. -/
def SameDirectory (first second : String) : Prop :=
  (Canonical.ofChars first.toList).Agrees (.ofChars second.toList)

theorem SameDirectory.refl (text : String) : SameDirectory text text where
  root := by cases (Canonical.ofChars text.toList).root <;> simp [Root.Agrees]
  components := List.forall₂_same.mpr fun _ _ => rfl

theorem eq_parent_iff {first second : Component} (same : SameLetters first second) :
    first = parent ↔ second = parent := same.eq_points_iff (by simp [parent])

theorem push_sameLetters {root other : Root} (rootless : root = .none ↔ other = .none)
    {stack stack' : List Component} (stacked : List.Forall₂ SameLetters stack stack') {component component' : Component}
    (same : SameLetters component component') :
    List.Forall₂ SameLetters (push root stack component) (push other stack' component') := by
  have empty : component = [] ↔ component' = [] := same.eq_points_iff (by simp)
  have point : component = ['.'] ↔ component' = ['.'] := same.eq_points_iff (by simp)
  unfold push
  simp only [empty, point, eq_parent_iff same, rootless, Bool.or_eq_true, decide_eq_true_eq]
  split
  next => exact stacked
  next =>
    split
    next =>
      cases stacked with
      | nil =>
        dsimp only
        split
        next => exact .cons rfl .nil
        next => exact .nil
      | cons top below =>
        simp only [ne_eq, eq_parent_iff top]
        split
        next => exact below
        next =>
          split
          next => exact .cons rfl (.cons top below)
          next => exact .cons top below
    next => exact .cons same stacked

theorem collapse_sameLetters {root other : Root} (rootless : root = .none ↔ other = .none)
    {components components' : List Component} (same : List.Forall₂ SameLetters components components') :
    List.Forall₂ SameLetters (collapse root components) (collapse other components') := by
  have step {stack stack' : List Component} (stacked : List.Forall₂ SameLetters stack stack') :
      List.Forall₂ SameLetters (components.foldl (push root) stack) (components'.foldl (push other) stack') := by
    induction same generalizing stack stack' with
    | nil => exact stacked
    | cons head _ ih => exact ih (push_sameLetters rootless stacked head)
  exact List.rel_reverse (step .nil)

theorem sameLetters_drive {letter letter' : Char} (alpha : letter.isAlpha = true) (alpha' : letter'.isAlpha = true)
    {cs cs' : List Char} : SameLetters (letter :: ':' :: cs) (letter' :: ':' :: cs') ↔
      letter.toLower = letter'.toLower ∧ SameLetters cs cs' := by
  simp [SameLetters, folded_cons, foldedChar_ascii (toNat_lt_of_isAlpha alpha),
    foldedChar_ascii (toNat_lt_of_isAlpha alpha')]

theorem startsWithDrive_iff {cs : List Char} :
    startsWithDrive cs = true ↔ ∃ letter rest, letter.isAlpha = true ∧ cs = letter :: ':' :: rest := by
  unfold startsWithDrive
  split
  next letter rest => simp
  next none =>
    refine iff_of_false (by simp) ?_
    rintro ⟨letter, rest, -, whole⟩
    exact none letter rest whole

theorem agrees_of_segments {first second : List Char} (slash : first.head? = some '/' ↔ second.head? = some '/')
    (drive : startsWithDrive first = startsWithDrive second)
    (same : List.Forall₂ SameLetters (segments first) (segments second)) :
    (Canonical.ofChars first).Agrees (.ofChars second) := by
  by_cases slashed : first.head? = some '/'
  · obtain ⟨cs, rfl⟩ := List.head?_eq_some_iff.mp slashed
    obtain ⟨ds, rfl⟩ := List.head?_eq_some_iff.mp (slash.mp slashed)
    obtain ⟨root, either, read⟩ := exists_ofChars_slash cs
    obtain ⟨other, either', read'⟩ := exists_ofChars_slash ds
    have rootless : root = .none ↔ other = .none := by
      rcases either with rfl | rfl <;> rcases either' with rfl | rfl <;> simp
    rw [segments_slash, segments_slash] at same
    rw [read, read']
    refine ⟨?_, collapse_sameLetters rootless same⟩
    rcases either with rfl | rfl <;> rcases either' with rfl | rfl <;> simp [Root.Agrees]
  · by_cases driven : startsWithDrive first = true
    · obtain ⟨letter, cs, alpha, rfl⟩ := startsWithDrive_iff.mp driven
      obtain ⟨letter', ds, alpha', rfl⟩ := startsWithDrive_iff.mp (drive ▸ driven)
      obtain ⟨head, tail, split, behind⟩ := segments_drive (ne_slash_of_isAlpha alpha) cs
      obtain ⟨head', tail', split', behind'⟩ := segments_drive (ne_slash_of_isAlpha alpha') ds
      rw [split, split', List.forall₂_cons, sameLetters_drive alpha alpha'] at same
      obtain ⟨⟨letters, heads⟩, tails⟩ := same
      have inner : List.Forall₂ SameLetters (segments cs) (segments ds) := by
        have empty : head = [] ↔ head' = [] := heads.eq_points_iff (by simp)
        rw [behind, behind']
        simp only [empty]
        split
        next => exact tails
        next => exact .cons heads tails
      rw [ofChars_drive alpha, ofChars_drive alpha']
      exact ⟨letters, collapse_sameLetters (by simp) inner⟩
    · rw [ofChars_rootless slashed (by simpa using driven),
        ofChars_rootless (slash.not.mp slashed) (by simpa [drive] using driven)]
      exact ⟨trivial, collapse_sameLetters Iff.rfl same⟩

/-! A slash behind a path. -/

theorem startsWithDrive_append_slash (cs behind : List Char) :
    startsWithDrive (cs ++ '/' :: behind) = startsWithDrive cs := by
  match cs with
  | [] =>
    refine (Bool.eq_false_iff.mpr fun driven => ?_ : startsWithDrive ('/' :: behind) = false)
    obtain ⟨letter, rest, alpha, whole⟩ := startsWithDrive_iff.mp driven
    exact ne_slash_of_isAlpha alpha (List.cons.inj whole).1.symm
  | [c] => simp [startsWithDrive]
  | c :: second :: rest => by_cases colon : second = ':' <;> simp [startsWithDrive, colon]

def behind (rest : List String) : String := if "/".intercalate rest = "" then "" else "/" ++ "/".intercalate rest

section

variable {base path : Canonical} {rest : List String}

theorem segments_chars (normal : path.Normal) : segments path.chars = path.fields := Canonical.splitOnP_chars normal

theorem segments_joined {components : List Component}
    (plain : ∀ component ∈ components, component ≠ [] ∧ '/' ∉ component) :
    segments (joined components) = components := by
  have kept : components.filter (· ≠ []) = components :=
    List.filter_eq_self.mpr fun component member => by simpa using (plain component member).1
  by_cases empty : components = []
  · simp [empty, joined, segments]
  · rw [segments, splitOnP_joined (fun component member => (plain component member).2) empty, kept]

/-- What a path below a directory is made of. The directory is that of the path, case aside. -/
structure MadeOf (base path : Canonical) (text : List Char) (own : List Component) : Prop where
  segments : segments text = base.fields ++ own
  same : List.Forall₂ SameLetters (base.fields ++ own) path.fields
  drive : startsWithDrive text = startsWithDrive base.chars
  head : text.head? = base.chars.head?
  rootless : base.root = .none → text = joined (base.components ++ own)

variable {text : List Char} {own : List Component}

theorem Canonical.Normal.of_sameLetters {components components' : List Component}
    (same : List.Forall₂ SameLetters components components') (normal : Normal ⟨.none, components'⟩)
    (slashless : ∀ component ∈ components, component ≠ [] ∧ '/' ∉ component) : Normal ⟨.none, components⟩ where
  letter := by simp
  named component member := by
    obtain ⟨component', member', same⟩ := exists_mem_of_forall₂ same member
    exact ⟨(slashless component member).1, (same.eq_points_iff (by simp)).not.mpr (normal.named _ member').2.1,
      (slashless component member).2⟩
  upwards := by
    have marks : components.map (· = parent) = components'.map (· = parent) := by
      rw [← List.forall₂_eq_eq_eq, List.forall₂_map_left_iff, List.forall₂_map_right_iff]
      exact same.imp fun _ _ same => propext (eq_parent_iff same)
    have upwards := normal.upwards
    rw [← List.pairwise_map (f := (· = parent)) (R := fun earlier later => later → earlier)] at upwards ⊢
    rwa [marks]
  rooted := by simp

theorem root_eq_none (normal : path.Normal) (slashed : path.chars.head? ≠ some '/')
    (drive : startsWithDrive path.chars = false) : path.root = .none := by
  rw [Canonical.chars_eq] at slashed drive
  cases root : path.root with
  | none => rfl
  | slash => simp [root, Root.chars] at slashed
  | share => simp [root, Root.chars] at slashed
  | drive letter => simp [root, Root.chars, startsWithDrive, normal.letter letter root] at drive

theorem fields_of_rootless (rootless : path.root = .none) : path.fields = path.components := by
  rw [Canonical.fields, rootless]

theorem MadeOf.agrees (made : MadeOf base path text own) (baseNormal : base.Normal) (pathNormal : path.Normal)
    (drive : startsWithDrive base.chars = startsWithDrive path.chars)
    (slashed : base.chars.head? = some '/' ↔ path.chars.head? = some '/') :
    (Canonical.ofChars (Canonical.ofChars text).chars).Agrees (.ofChars path.chars) := by
  have agrees : (Canonical.ofChars text).Agrees (.ofChars path.chars) := by
    refine agrees_of_segments ?_ (made.drive.trans drive) ?_
    · rw [made.head]
      exact slashed
    · rw [made.segments, segments_chars pathNormal]
      exact made.same
  suffices settled : Canonical.ofChars (Canonical.ofChars text).chars = Canonical.ofChars text by rwa [settled]
  by_cases rootless : text.head? ≠ some '/' ∧ startsWithDrive text = false
  · -- Without a root the text is canonical already, since the components of the path are.
    have baseRootless : base.root = .none :=
      root_eq_none baseNormal (made.head ▸ rootless.1) (made.drive ▸ rootless.2)
    have pathRootless : path.root = .none :=
      root_eq_none pathNormal (slashed.not.mp (made.head ▸ rootless.1)) (drive ▸ made.drive ▸ rootless.2)
    have same := made.same
    have plain : ∀ component ∈ base.fields ++ own, component ≠ [] ∧ '/' ∉ component :=
      made.segments ▸ fun _ => slash_notMem_of_mem_segments
    rw [fields_of_rootless baseRootless] at same plain
    rw [fields_of_rootless pathRootless] at same
    have normal : Canonical.Normal ⟨.none, path.components⟩ := pathRootless ▸ pathNormal
    have whole : text = Canonical.chars ⟨.none, base.components ++ own⟩ := made.rootless baseRootless
    have read := Canonical.ofChars_chars (normal.of_sameLetters same plain) fun _ => whole ▸ rootless.2
    rw [whole, read]
    exact read
  · refine Canonical.ofChars_chars (Canonical.normal_ofChars _) fun none => absurd ⟨fun slashed => ?_, ?_⟩ rootless
    · obtain ⟨rest, rfl⟩ := List.head?_eq_some_iff.mp slashed
      exact splitRoot_slash rest none
    · exact startsWithDrive_of_splitRoot none

end

end Path

end Listfile
