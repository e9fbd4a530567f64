import Listfile.Proofs.PrecompiledHeaders

/-!
The files of a target for which every file states its own precompiled header: how they are divided into groups by
their flags, and that no other groups divide them like this.
-/

namespace Listfile

section

variable {α : Type} [BEq α] [LawfulBEq α]

theorem pairwise_idxOf_eraseDups (l : List α) :
    l.eraseDups.Pairwise fun first second => l.idxOf first < l.idxOf second := by
  induction l using List.reverseRecOn with
  | nil => exact List.Pairwise.nil
  | append_singleton l x ih =>
    have kept : l.eraseDups.Pairwise fun first second => (l ++ [x]).idxOf first < (l ++ [x]).idxOf second := by
      apply ih.imp_of_mem
      intro first second inside inside' before
      rw [List.idxOf_append_of_mem (List.mem_eraseDups.mp inside),
        List.idxOf_append_of_mem (List.mem_eraseDups.mp inside')]
      exact before
    rw [eraseDups_snoc]
    split
    next => exact kept
    next fresh =>
      refine List.pairwise_append.mpr ⟨kept, List.pairwise_singleton _ _, ?_⟩
      intro first inside last same
      rw [List.mem_singleton.mp same, List.idxOf_append_of_notMem fresh]
      have known := List.mem_eraseDups.mp inside
      rw [List.idxOf_append_of_mem known]
      exact Nat.lt_of_lt_of_le (List.idxOf_lt_length_of_mem known) (Nat.le_add_right _ _)

end

namespace PchPlan

variable {defaults : Keyed Settings} {files : List FileSettings} {file : FileSettings} {groups : List PchGroup}
  {flags : List (String × String)}

def groupOf (defaults : Keyed Settings) (files : List FileSettings) (flags : List (String × String)) : PchGroup :=
  ⟨(files.filter fun file => flagsOf defaults file = flags).map (·.file), flags⟩

def isStated (flags : List (String × String)) : Bool := flags.any (·.2 ≠ "")

theorem groups_eq (defaults : Keyed Settings) (files : List FileSettings) :
    PchPlan.groups defaults files =
      (((files.map (flagsOf defaults)).eraseDups).filter isStated).map (groupOf defaults files) := rfl

/-! Grouping the files one by one. -/

/-- Puts a file into the first group with its flags, or else into a new one at the end. -/
def collect (defaults : Keyed Settings) : List PchGroup → FileSettings → List PchGroup
  | [], file => [⟨[file.file], flagsOf defaults file⟩]
  | group :: rest, file =>
    if group.flags = flagsOf defaults file then { group with files := group.files ++ [file.file] } :: rest
    else group :: collect defaults rest file

theorem groupOf_snoc_of_eq (same : flagsOf defaults file = flags) :
    groupOf defaults (files ++ [file]) flags =
      { groupOf defaults files flags with files := (groupOf defaults files flags).files ++ [file.file] } := by
  simp [groupOf, same]

theorem groupOf_snoc_of_ne (other : flagsOf defaults file ≠ flags) :
    groupOf defaults (files ++ [file]) flags = groupOf defaults files flags := by
  simp [groupOf, other]

theorem collect_groupOf {distinct : List (List (String × String))} (nodup : distinct.Nodup) :
    collect defaults (distinct.map (groupOf defaults files)) file =
      distinct.map (groupOf defaults (files ++ [file])) ++
        if flagsOf defaults file ∈ distinct then [] else [⟨[file.file], flagsOf defaults file⟩] := by
  induction distinct with
  | nil => rfl
  | cons flags rest ih =>
    obtain ⟨fresh, nodup⟩ := List.nodup_cons.mp nodup
    have own : (groupOf defaults files flags).flags = flags := rfl
    rw [List.map_cons, collect, own]
    by_cases same : flags = flagsOf defaults file
    · have others : rest.map (groupOf defaults (files ++ [file])) = rest.map (groupOf defaults files) := by
        apply List.map_congr_left
        intro other inside
        apply groupOf_snoc_of_ne
        rintro rfl
        exact fresh (same ▸ inside)
      rw [if_pos same, List.map_cons, others, groupOf_snoc_of_eq same.symm, if_pos (by simp [same]), List.append_nil]
      rfl
    · have position : flagsOf defaults file ∈ flags :: rest ↔ flagsOf defaults file ∈ rest := by
        rw [List.mem_cons, or_iff_right (Ne.symm same)]
      rw [if_neg same, ih nodup, List.map_cons, groupOf_snoc_of_ne (Ne.symm same), List.cons_append]
      simp only [position]

theorem collect_eraseDups (files : List FileSettings) (file : FileSettings) :
    collect defaults (((files.map (flagsOf defaults)).eraseDups).map (groupOf defaults files)) file =
      (((files ++ [file]).map (flagsOf defaults)).eraseDups).map (groupOf defaults (files ++ [file])) := by
  rw [collect_groupOf (nodup_eraseDups _), List.map_append, List.map_singleton, eraseDups_snoc]
  simp only [List.mem_eraseDups]
  split
  next => rw [List.append_nil]
  next fresh =>
    have alone : groupOf defaults (files ++ [file]) (flagsOf defaults file) = ⟨[file.file], flagsOf defaults file⟩ := by
      have none : files.filter (fun other => flagsOf defaults other = flagsOf defaults file) = [] := by
        apply List.filter_eq_nil_iff.mpr
        intro other inside same
        exact fresh (List.mem_map.mpr ⟨other, inside, of_decide_eq_true same⟩)
      rw [groupOf_snoc_of_eq rfl, groupOf, none]
      rfl
    rw [List.map_append, List.map_singleton, alone]

theorem foldl_collect (defaults : Keyed Settings) (files : List FileSettings) :
    files.foldl (collect defaults) [] = ((files.map (flagsOf defaults)).eraseDups).map (groupOf defaults files) := by
  induction files using List.reverseRecOn with
  | nil => rfl
  | append_singleton files file ih => rw [List.foldl_append, List.foldl_cons, List.foldl_nil, ih, collect_eraseDups]

theorem groups_eq_foldl_collect (defaults : Keyed Settings) (files : List FileSettings) :
    PchPlan.groups defaults files =
      (files.foldl (collect defaults) []).filter fun group => group.flags.any (·.2 ≠ "") := by
  rw [foldl_collect, groups_eq, List.filter_map]
  rfl

/-! The groups as a division of the files. -/

def firstPlace (defaults : Keyed Settings) (files : List FileSettings) (flags : List (String × String)) : Nat :=
  files.findIdx fun file => flagsOf defaults file = flags

/-- Groups that divide the files which state any flags, by their flags. -/
structure Divides (defaults : Keyed Settings) (files : List FileSettings) (groups : List PchGroup) : Prop where
  /-- A group lists the files with its flags, in the order in which they are given. -/
  files_eq : ∀ group ∈ groups, group.files = (files.filter fun file => flagsOf defaults file = group.flags).map (·.file)
  filled : ∀ group ∈ groups, ∃ file ∈ files, flagsOf defaults file = group.flags
  /-- A file is in just one group if it states flags in any configuration, and in none if it does not. -/
  own : ∀ file ∈ files, groups.countP (fun group => group.flags = flagsOf defaults file) =
    if ∃ entry ∈ flagsOf defaults file, entry.2 ≠ "" then 1 else 0
  apart : (groups.map (·.flags)).Nodup
  /-- The groups are in the order of their first files. -/
  ordered : (groups.map (·.flags)).Pairwise fun first second =>
    firstPlace defaults files first < firstPlace defaults files second

theorem firstPlace_eq (defaults : Keyed Settings) (files : List FileSettings) (flags : List (String × String)) :
    firstPlace defaults files flags = (files.map (flagsOf defaults)).idxOf flags := by
  simp only [firstPlace, List.idxOf, List.findIdx_map, Function.comp_def, beq_eq_decide]

theorem isStated_iff : isStated flags = true ↔ ∃ entry ∈ flags, entry.2 ≠ "" := by
  simp only [isStated, List.any_eq_true, decide_eq_true_eq]

theorem divides_groups (defaults : Keyed Settings) (files : List FileSettings) :
    Divides defaults files (PchPlan.groups defaults files) := by
  have distinct : ((files.map (flagsOf defaults)).eraseDups.filter isStated).Nodup := (nodup_eraseDups _).filter _
  have listed (flags : List (String × String)) : flags ∈ (files.map (flagsOf defaults)).eraseDups.filter isStated ↔
      (∃ file ∈ files, flagsOf defaults file = flags) ∧ ∃ entry ∈ flags, entry.2 ≠ "" := by
    rw [List.mem_filter, List.mem_eraseDups, List.mem_map, isStated_iff]
  have flags_eq : (PchPlan.groups defaults files).map (·.flags) =
      (files.map (flagsOf defaults)).eraseDups.filter isStated := by
    rw [groups_eq, List.map_map]
    exact List.map_id _
  constructor
  case files_eq =>
    intro group member
    obtain ⟨flags, -, rfl⟩ := List.mem_map.mp member
    rfl
  case filled =>
    intro group member
    obtain ⟨flags, inside, rfl⟩ := List.mem_map.mp member
    exact ((listed flags).mp inside).1
  case own =>
    intro file inside
    have counted : (PchPlan.groups defaults files).countP (fun group => group.flags = flagsOf defaults file) =
        ((files.map (flagsOf defaults)).eraseDups.filter isStated).count (flagsOf defaults file) := by
      simp only [← flags_eq, List.count, List.countP_map, Function.comp_def, beq_eq_decide]
    rw [counted]
    split
    next stated => exact List.count_eq_one_of_mem distinct ((listed _).mpr ⟨⟨file, inside, rfl⟩, stated⟩)
    next silent => exact List.count_eq_zero.mpr fun member => silent ((listed _).mp member).2
  case apart =>
    rw [flags_eq]
    exact distinct
  case ordered =>
    rw [flags_eq]
    simp only [firstPlace_eq]
    exact (pairwise_idxOf_eraseDups _).filter _

theorem Divides.mem_flags_iff (divides : Divides defaults files groups) :
    flags ∈ groups.map (·.flags) ↔ (∃ file ∈ files, flagsOf defaults file = flags) ∧ ∃ entry ∈ flags, entry.2 ≠ "" := by
  constructor
  · intro member
    obtain ⟨group, inside, rfl⟩ := List.mem_map.mp member
    obtain ⟨file, given, same⟩ := divides.filled group inside
    refine ⟨⟨file, given, same⟩, ?_⟩
    have counted := divides.own file given
    split at counted
    next stated => exact same ▸ stated
    next =>
      rw [List.countP_eq_zero] at counted
      exact absurd (decide_eq_true same.symm) (counted group inside)
  · intro given
    rcases given with ⟨⟨file, given, rfl⟩, stated⟩
    have counted := divides.own file given
    rw [if_pos stated] at counted
    obtain ⟨group, inside, same⟩ := List.countP_pos_iff.mp (counted ▸ Nat.one_pos)
    exact List.mem_map.mpr ⟨group, inside, of_decide_eq_true same⟩

theorem Divides.unique {others : List PchGroup} (divides : Divides defaults files groups)
    (other : Divides defaults files others) : groups = others := by
  have rebuilt {listed : List PchGroup} (divides : Divides defaults files listed) :
      listed = (listed.map (·.flags)).map (groupOf defaults files) := by
    rw [List.map_map]
    refine ((List.map_congr_left fun group inside => ?_).trans (List.map_id _)).symm
    exact congrArg (PchGroup.mk · group.flags) (divides.files_eq group inside).symm
  have perm : (groups.map (·.flags)).Perm (others.map (·.flags)) := by
    apply (List.perm_ext_iff_of_nodup divides.apart other.apart).mpr
    intro flags
    exact divides.mem_flags_iff.trans other.mem_flags_iff.symm
  have same : groups.map (·.flags) = others.map (·.flags) := by
    refine perm.eq_of_pairwise ?_ divides.ordered other.ordered
    intro first second _ _ before after
    exact absurd after (Nat.lt_asymm before)
  calc
    groups = (groups.map (·.flags)).map (groupOf defaults files) := rebuilt divides
    _ = (others.map (·.flags)).map (groupOf defaults files) := congrArg _ same
    _ = others := (rebuilt other).symm

/-- Every file states its own flags just if the target uses a precompiled header and one of its files does without.
The groups are then those that divide the files by their flags, which are those that the files are put into one by
one, but for the files without flags. -/
theorem files_are_grouped_by_flags (defaults : Keyed Settings) (files : List FileSettings) :
    ((∃ groups, PchPlan.ofFiles defaults files = .perFile groups) ↔
      (∃ entry ∈ defaults, entry.2.pch.mode = .use) ∧
        ∃ file ∈ files, ∃ entry ∈ file.perConfig, entry.2.pch.mode = .none) ∧
    ∀ groups, PchPlan.ofFiles defaults files = .perFile groups →
      groups = (files.foldl (collect defaults) []).filter (fun group => group.flags.any (·.2 ≠ "")) ∧
      ∀ others, Divides defaults files others ↔ others = groups := by
  unfold PchPlan.ofFiles
  rw [← isMixed_eq_true_iff]
  split
  next mixed =>
    refine ⟨iff_of_true ⟨_, rfl⟩ mixed, ?_⟩
    rintro groups ⟨⟩
    refine ⟨groups_eq_foldl_collect defaults files, fun others => ⟨fun divides => ?_, ?_⟩⟩
    · exact divides.unique (divides_groups defaults files)
    · rintro rfl
      exact divides_groups defaults files
  next uniform =>
    refine ⟨iff_of_false ?_ uniform, ?_⟩
    · rintro ⟨groups, ⟨⟩⟩
    · rintro groups ⟨⟩

end PchPlan

end Listfile
