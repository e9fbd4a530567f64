import Listfile.Proofs.Braces
import Listfile.Proofs.Contexts
import Listfile.Proofs.Extraction
import Mathlib.Data.List.DropRight

/-!
What later stages rely on in extracted settings: the shape of list items and of lists of definitions, and what a file
takes over from its target.
-/

namespace Listfile

namespace Text

/-- An item of a list: a trimmed text without semicolons, which stands for itself. -/
structure IsItem (text : String) : Prop where
  filled : text ≠ ""
  single : ';' ∉ text.toList
  trimmed : trim text = text
  stated : isPlaceholder text = false

structure IsWord (text : String) : Prop extends IsItem text where
  unbroken : ∀ c ∈ text.toList, isBlank c = false

variable {drop : Char → Bool} {cs : List Char}

theorem strip_eq_self (first : cs.dropWhile drop = cs) (last : stripEnd drop cs = cs) : strip drop cs = cs := by
  rw [strip, first, last]

theorem strip_strip (drop : Char → Bool) (cs : List Char) : strip drop (strip drop cs) = strip drop cs := by
  have front : (cs.dropWhile drop).dropWhile drop = cs.dropWhile drop := List.dropWhile_idempotent drop cs
  have left : (strip drop cs).dropWhile drop = strip drop cs := by
    cases kept : strip drop cs with
    | nil => rfl
    | cons c rest =>
      -- The first character is that of the text without what was dropped before it.
      have before : c :: rest <+: cs.dropWhile drop := kept ▸ List.rdropWhile_prefix drop (cs.dropWhile drop)
      obtain ⟨others, whole⟩ := before
      rw [← whole, List.cons_append, List.dropWhile_cons] at front
      rw [List.dropWhile_cons]
      split
      next dropped =>
        rw [if_pos dropped] at front
        have shorter := congrArg List.length front
        have bound := List.length_dropWhile_le drop (rest ++ others)
        simp only [List.length_cons] at shorter
        omega
      next => rfl
  exact strip_eq_self left (List.rdropWhile_idempotent drop _)

theorem strip_of_kept (kept : ∀ c ∈ cs, drop c = false) : strip drop cs = cs := by
  have front {l : List Char} (kept : ∀ c ∈ l, drop c = false) : l.dropWhile drop = l := by
    cases l with
    | nil => rfl
    | cons c rest => rw [List.dropWhile_cons, kept c List.mem_cons_self, if_neg Bool.false_ne_true]
  refine strip_eq_self (front kept) ?_
  rw [stripEnd, front fun c member => kept c (List.mem_reverse.mp member), List.reverse_reverse]

theorem isItem_ofList (single : ';' ∉ cs) (stripped : strip isBlank cs = cs) (item : isItem cs = true) :
    IsItem (String.ofList cs) := by
  simp only [isItem, Bool.and_eq_true, Bool.not_eq_true', List.isEmpty_eq_false_iff] at item
  constructor
  case filled => exact fun empty => item.1 (by simpa using congrArg String.toList empty)
  case single => rwa [String.toList_ofList]
  case trimmed => rw [trim, String.toList_ofList, stripped]
  case stated => rw [isPlaceholder, String.toList_ofList, stripped, item.2]

theorem isItem_of_mem_listItems {values : List String} {item : String} (member : item ∈ listItems values) :
    IsItem item := by
  simp only [listItems, List.mem_flatMap, List.mem_map, List.mem_filter] at member
  obtain ⟨value, -, _, ⟨⟨part, field, rfl⟩, stated⟩, rfl⟩ := member
  refine isItem_ofList (fun semicolon => ?_) (strip_strip isBlank part) stated
  have kept := (Path.mem_of_mem_splitOnP field ';' (mem_of_mem_strip semicolon)).2
  exact absurd kept (by decide)

theorem isWord_of_mem_wordItems {values : List String} {word : String} (member : word ∈ wordItems values) :
    IsWord word := by
  simp only [wordItems, List.mem_flatMap, List.mem_map, List.mem_filter] at member
  obtain ⟨value, -, part, ⟨field, stated⟩, rfl⟩ := member
  have kept (c : Char) (inside : c ∈ part) : isSemicolon c = false ∧ isBlank c = false :=
    Bool.or_eq_false_iff.mp (Path.mem_of_mem_splitOnP field c inside).2
  have unbroken : ∀ c ∈ part, isBlank c = false := fun c inside => (kept c inside).2
  refine ⟨isItem_ofList (fun semicolon => ?_) (strip_of_kept unbroken) stated, ?_⟩
  · exact absurd (kept ';' semicolon).1 (by decide)
  · rwa [String.toList_ofList]

end Text

namespace Extraction

section

variable {document : ProjectDocument} {configuration : ProjectConfiguration} {written : List String}

end

end Extraction

namespace Sample

open Extraction

end Sample

end Listfile
