/-!
Values under distinct names, in the order in which the names came.
-/

namespace Listfile

abbrev Keyed (α : Type) := List (String × α)

namespace Keyed

variable {α β : Type}

def keys (entries : Keyed α) : List String := entries.map Prod.fst

def values (entries : Keyed α) : List α := entries.map Prod.snd

/-- The first value under `key`. -/
def get? : Keyed α → String → Option α
  | [], _ => none
  | entry :: rest, key => if entry.1 = key then some entry.2 else get? rest key

/-- Puts `value` under `key`: in place if the name is there, else at the end. -/
def put (entries : Keyed α) (key : String) (value : α) : Keyed α :=
  match entries with
  | [] => [(key, value)]
  | entry :: rest => if entry.1 = key then (key, value) :: rest else entry :: put rest key value

/-- A repeated name keeps its first place and takes its last value. -/
def ofPairs (pairs : List (String × α)) : Keyed α :=
  pairs.foldl (fun entries pair => put entries pair.1 pair.2) []

def mapValues (f : String → α → β) (entries : Keyed α) : Keyed β :=
  entries.map fun entry => (entry.1, f entry.1 entry.2)

theorem keys_mapValues (f : String → α → β) (entries : Keyed α) :
    keys (mapValues f entries) = keys entries := by simp [keys, mapValues]

theorem get?_mapValues (f : String → α → β) (entries : Keyed α) (key : String) :
    get? (mapValues f entries) key = (get? entries key).map (f key) := by
  induction entries with
  | nil => rfl
  | cons entry rest ih =>
    rw [mapValues, List.map_cons, get?, get?]
    split
    next same => rw [same, Option.map_some]
    next => exact ih

theorem mem_of_get? {entries : Keyed α} {key : String} {value : α}
    (found : get? entries key = some value) : (key, value) ∈ entries := by
  induction entries with
  | nil => simp [get?] at found
  | cons entry rest ih =>
    rw [get?] at found
    split at found
    next same =>
      cases entry
      simp_all
    next => exact List.mem_cons_of_mem _ (ih found)

theorem exists_get?_of_mem_keys {entries : Keyed α} {key : String} (member : key ∈ keys entries) :
    ∃ value, get? entries key = some value := by
  induction entries with
  | nil => simp [keys] at member
  | cons entry rest ih =>
    rw [get?]
    split
    next => exact ⟨entry.2, rfl⟩
    next different =>
      rcases List.mem_cons.mp member with same | member
      · exact absurd same.symm different
      · exact ih member

theorem get?_eq_none {entries : Keyed α} {key : String} (missing : key ∉ keys entries) :
    get? entries key = none := by
  cases found : get? entries key with
  | none => rfl
  | some value => exact absurd (List.mem_map_of_mem (mem_of_get? found)) missing

theorem get?_of_mem {entries : Keyed α} (nodup : (keys entries).Nodup) {key : String} {value : α}
    (member : (key, value) ∈ entries) : get? entries key = some value := by
  induction entries with
  | nil => simp at member
  | cons entry rest ih =>
    have split_nodup := List.nodup_cons.mp nodup
    rw [get?]
    rcases List.mem_cons.mp member with same | member
    · rw [← same, if_pos rfl]
    · have different : entry.1 ≠ key := by
        intro same
        exact split_nodup.1 (List.mem_map.mpr ⟨(key, value), member, same.symm⟩)
      rw [if_neg different]
      exact ih split_nodup.2 member

theorem eq_of_mem {entries : Keyed α} (nodup : (keys entries).Nodup) {first second : String × α}
    (member : first ∈ entries) (member' : second ∈ entries) (same : first.1 = second.1) :
    first = second := by
  have found := get?_of_mem nodup member
  rw [same, get?_of_mem nodup member', Option.some.injEq] at found
  exact Prod.ext same found.symm

theorem get?_put (entries : Keyed α) (key other : String) (value : α) :
    get? (put entries key value) other = if key = other then some value else get? entries other := by
  induction entries with
  | nil => simp [put, get?]
  | cons entry rest ih =>
    unfold put
    split
    next same => by_cases h : key = other <;> simp [get?, same, h]
    next different =>
      by_cases h : entry.1 = other
      · have away : key ≠ other := fun equal => different (h.trans equal.symm)
        simp [get?, h, away]
      · simp [get?, h, ih]

end Keyed

end Listfile
