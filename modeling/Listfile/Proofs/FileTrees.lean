import Listfile.Files.Tree
import Listfile.Proofs.Traversal

/-!
Changes of a file tree: making a directory adds directories and nothing else, writing a file puts it at the place of
its path, and whatever was there stays there, if only as a file with another text.
-/

namespace Listfile.FileTree

variable {tree middle final : FileTree}

/-! One entry. -/

theorem lookup?_put {place : List String} (below : place ≠ []) (tree : FileTree) (entry : FileEntry)
    (other : List String) : (tree.put place entry).lookup? other =
      if other = place then some entry else tree.lookup? other := by
  have kept (different : other ≠ place) (entries : List (List String × FileEntry)) :
      (entries.filter fun own => own.1 ≠ place).lookup other = entries.lookup other := by
    induction entries with
    | nil => rfl
    | cons own rest ih =>
      by_cases same : own.1 = place
      · have passed : (other == own.1) = false := by simpa [same] using different
        rw [List.filter_cons_of_neg (by simpa using same), ih, List.lookup_cons, passed]
      · rw [List.filter_cons_of_pos (by simpa using same), List.lookup_cons, List.lookup_cons, ih]
  unfold lookup? put
  by_cases same : other = place
  · subst same
    rw [if_neg below, if_pos rfl, List.lookup_cons, beq_self_eq_true]
  · have passed : (other == place) = false := by simpa using same
    rw [if_neg same, List.lookup_cons, passed, kept same]

/-! What stays where a tree is changed. -/

/-- Whether all entries of a tree stay, and all of its directories stay directories. -/
structure Grows (tree final : FileTree) : Prop where
  directories : ∀ place, tree.isDirectory place = true → final.isDirectory place = true
  kept : ∀ place, (tree.lookup? place).isSome = true → (final.lookup? place).isSome = true

theorem Grows.refl (tree : FileTree) : Grows tree tree := ⟨fun _ => id, fun _ => id⟩

theorem Grows.trans (first : Grows tree middle) (second : Grows middle final) : Grows tree final :=
  ⟨fun place stays => second.directories place (first.directories place stays),
    fun place stays => second.kept place (first.kept place stays)⟩

/-! Following a path. -/

def advance (tree : FileTree) (place : List String) (field : String) : Except Failure (List String) :=
  if !tree.isDirectory place then .error .unsuitable
  else if Files.isVoid field then .ok place
  else if field = ".." then .ok place.dropLast
  else if field.utf8ByteSize > nameLimit then .error .tooLong
  else if (tree.lookup? (place ++ [field])).isSome then .ok (place ++ [field])
  else .error .missing

theorem follow_cons (tree : FileTree) (place : List String) (field : String) (rest : List String) :
    tree.follow place (field :: rest) = tree.advance place field >>= fun next => tree.follow next rest := by
  rw [follow, advance]
  split_ifs <;> rfl

theorem follow_append (tree : FileTree) (place front rest : List String) :
    tree.follow place (front ++ rest) = tree.follow place front >>= fun next => tree.follow next rest := by
  induction front generalizing place with
  | nil => rfl
  | cons field front ih =>
    rw [List.cons_append, follow_cons, follow_cons]
    cases tree.advance place field with
    | error => rfl
    | ok next => exact ih next

structure IsEntryName (name : String) : Prop where
  filled : Files.isVoid name = false
  down : name ≠ ".."
  short : name.utf8ByteSize ≤ nameLimit

theorem advance_entry {place : List String} (inside : tree.isDirectory place = true) {name : String}
    (isName : IsEntryName name) (there : (tree.lookup? (place ++ [name])).isSome = true) :
    tree.advance place name = .ok (place ++ [name]) := by
  rw [advance, inside, isName.filled, there]
  simp [isName.down, Nat.not_lt.mpr isName.short]

/-- Either a field leads to no other entry, or to one that is there. -/
theorem advance_cases {place next : List String} {field : String} (found : tree.advance place field = .ok next) :
    tree.isDirectory place = true ∧ ((∀ other : FileTree, other.isDirectory place = true →
        other.advance place field = .ok next) ∨
      IsEntryName field ∧ (tree.lookup? (place ++ [field])).isSome = true ∧ next = place ++ [field]) := by
  unfold advance at found
  split at found
  next => simp at found
  next inside =>
    refine ⟨by simpa using inside, ?_⟩
    split at found
    next void => exact .inl fun other inside => by simpa [advance, inside, void] using found
    next filled =>
      split at found
      next up =>
        refine .inl fun other inside => ?_
        rw [advance, inside, if_neg (by decide), if_neg filled, if_pos up]
        exact found
      next down =>
        split at found
        next => simp at found
        next short =>
          split at found
          next there =>
            exact .inr ⟨⟨by simpa using filled, down, Nat.not_lt.mp short⟩, there, (Except.ok.inj found).symm⟩
          next => simp at found

theorem Grows.advance (grows : Grows tree final) {place next : List String} {field : String}
    (found : tree.advance place field = .ok next) : final.advance place field = .ok next := by
  obtain ⟨inside, always | ⟨isName, there, rfl⟩⟩ := advance_cases found
  · exact always final (grows.directories place inside)
  · exact advance_entry (grows.directories place inside) isName (grows.kept _ there)

theorem Grows.follow (grows : Grows tree final) {fields place target : List String}
    (found : tree.follow place fields = .ok target) : final.follow place fields = .ok target := by
  induction fields generalizing place with
  | nil => exact found
  | cons field rest ih =>
    rw [follow_cons] at found ⊢
    obtain ⟨next, first, behind⟩ := bind_eq_ok_iff.mp found
    exact bind_eq_ok_iff.mpr ⟨next, grows.advance first, ih behind⟩

theorem Grows.find (grows : Grows tree final) {path : String} {place : List String}
    (found : tree.find path = .ok place) : final.find path = .ok place := by
  obtain ⟨fields, admitted, found⟩ := bind_eq_ok_iff.mp found
  exact bind_eq_ok_iff.mpr ⟨fields, admitted, grows.follow found⟩

/-! Changes. -/

/-- How a tree is changed by texts written to the files at paths: but for these files, there are directories where
nothing was, and nothing else is new. -/
structure Changes (written : List (String × String)) (tree final : FileTree) : Prop where
  grows : Grows tree final
  entries : ∀ place, final.lookup? place = tree.lookup? place ∨
    (tree.lookup? place = none ∧ final.lookup? place = some .directory) ∨
    ∃ entry ∈ written, final.find entry.1 = .ok place ∧ final.lookup? place = some (.file entry.2)

theorem Changes.refl (tree : FileTree) : Changes [] tree tree := ⟨.refl tree, fun _ => .inl rfl⟩

theorem Changes.trans {written more : List (String × String)} (first : Changes written tree middle)
    (second : Changes more middle final) : Changes (written ++ more) tree final := by
  refine ⟨first.grows.trans second.grows, fun place => ?_⟩
  rcases second.entries place with same | ⟨free, opened⟩ | ⟨entry, member, found, holds⟩
  · rw [same]
    rcases first.entries place with same | opened | ⟨entry, member, found, holds⟩
    · exact .inl same
    · exact .inr (.inl opened)
    · exact .inr (.inr ⟨entry, List.mem_append_left _ member, second.grows.find found, holds⟩)
  · rcases first.entries place with same | opened | ⟨entry, member, found, holds⟩
    · exact .inr (.inl ⟨same.symm.trans free, opened⟩)
    · simp [opened.2] at free
    · simp [holds] at free
  · exact .inr (.inr ⟨entry, List.mem_append_right _ member, found, holds⟩)

theorem slot_eq_ok {fields place : List String} {name : String} (found : tree.slot fields = .ok (place, name)) :
    ∃ above, fields = above ++ [name] ∧ tree.follow [] above = .ok place ∧ tree.isDirectory place = true ∧
      IsEntryName name := by
  unfold slot at found
  split at found
  next => simp at found
  next own above reversed =>
    have whole : fields = above.reverse ++ [own] := by
      rw [← List.reverse_reverse fields, reversed, List.reverse_cons]
    split at found
    next => simp at found
    next followed =>
      split_ifs at found with inside void long
      obtain ⟨rfl, rfl⟩ := Prod.mk.inj (Except.ok.inj found)
      simp only [Bool.or_eq_true, decide_eq_true_eq, not_or, Bool.not_eq_true] at void
      exact ⟨above.reverse, whole, followed, by simpa using inside, void.1, void.2, Nat.not_lt.mp long⟩

theorem grows_put {place : List String} (below : place ≠ []) {entry : FileEntry}
    (free : tree.isDirectory place = true → entry = .directory) : Grows tree (tree.put place entry) := by
  constructor
  · intro other inside
    unfold isDirectory at inside ⊢
    rw [lookup?_put below]
    split
    next same =>
      subst same
      rw [free inside]
      rfl
    next => exact inside
  · intro other there
    rw [lookup?_put below]
    split
    next => rfl
    next => exact there

theorem changes_makeDirectory {path : String} (made : tree.makeDirectory path = .ok final) : Changes [] tree final := by
  unfold makeDirectory at made
  split at made
  next => simp at made
  next place name _ =>
    split at made
    next => simp at made
    next absent =>
      obtain rfl := Except.ok.inj made
      have below : place ++ [name] ≠ [] := by simp
      have free : tree.lookup? (place ++ [name]) = none := by simpa using absent
      refine ⟨grows_put below fun _ => rfl, fun other => ?_⟩
      rw [lookup?_put below]
      split
      next same =>
        subst same
        exact .inr (.inl ⟨free, rfl⟩)
      next => exact .inl rfl

theorem changes_orExisting (tree : FileTree) (path : String) {made : Except Failure FileTree}
    (changes : ∀ final, made = .ok final → Changes [] tree final) : Changes [] tree (tree.orExisting path made).2 := by
  cases made with
  | ok final => exact changes final rfl
  | error failure => exact .refl tree

theorem changes_makeDirectories (tree : FileTree) (path : String) : Changes [] tree (tree.makeDirectories path).2 := by
  have upTo (depth : Nat) : ∀ (tree : FileTree) (path : String),
      Changes [] tree (makeDirectoriesUpTo depth tree path).2 := by
    induction depth with
    | zero => exact fun tree _ => .refl tree
    | succ depth ih =>
      intro tree path
      rw [makeDirectoriesUpTo]
      split
      next =>
        split
        next => exact .refl tree
        next above _ =>
          have opened := ih tree above
          split
          next made => rwa [made] at opened
          next made =>
            rw [made] at opened
            exact opened.trans (changes_orExisting _ _ fun _ => changes_makeDirectory)
      next => exact changes_orExisting _ _ fun _ => changes_makeDirectory
  exact upTo _ tree path

theorem changes_write {path text : String} (written : tree.write path text = (.ok (), final)) :
    Changes [(path, text)] tree final := by
  unfold write at written
  split at written
  next => simp at written
  next place name slot =>
    split at written
    next => simp at written
    next file =>
      obtain rfl := (Prod.mk.inj written).2
      obtain ⟨fields, admitted, slot⟩ := bind_eq_ok_iff.mp slot
      obtain ⟨above, rfl, followed, inside, isName⟩ := slot_eq_ok slot
      have below : place ++ [name] ≠ [] := by simp
      have grows : Grows tree (tree.put (place ++ [name]) (.file text)) :=
        grows_put below fun directory => absurd directory file
      have holds : (tree.put (place ++ [name]) (.file text)).lookup? (place ++ [name]) = some (.file text) := by
        rw [lookup?_put below, if_pos rfl]
      refine ⟨grows, fun other => ?_⟩
      by_cases same : other = place ++ [name]
      · subst same
        refine .inr (.inr ⟨_, List.mem_singleton_self _, bind_eq_ok_iff.mpr ⟨_, admitted, ?_⟩, holds⟩)
        have last := advance_entry (grows.directories place inside) isName (by rw [holds]; rfl)
        rw [follow_append, grows.follow followed]
        exact (follow_cons _ _ _ _).trans (bind_eq_ok_iff.mpr ⟨_, last, rfl⟩)
      · exact .inl (by rw [lookup?_put below, if_neg same])

end Listfile.FileTree
