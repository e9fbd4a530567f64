import Listfile.Proofs.Contexts
import Listfile.Snapshot.Decode
import Listfile.Snapshot.Encode
import Mathlib.Logic.Relation

/-!
Documents of records: how their fields are written and read, the changes of a document that leave its value as it is,
and those after which it has none.
-/

namespace Listfile

namespace Keyed

variable {α : Type}

theorem get?_middle {before after : Keyed α} {name : String} {value : α}
    (nodup : (keys (before ++ (name, value) :: after)).Nodup) (key : String) :
    get? (before ++ (name, value) :: after) key =
      if key = name then some value else get? (before ++ after) key := by
  induction before with
  | nil => simp only [List.nil_append, get?, eq_comm]
  | cons entry rest ih =>
    obtain ⟨fresh, distinct⟩ := List.nodup_cons.mp nodup
    have other : entry.1 ≠ name := fun same => fresh (List.mem_map.mpr ⟨(name, value), by simp, same.symm⟩)
    rw [List.cons_append, List.cons_append, get?, get?]
    split
    next same => rw [if_neg (same ▸ other)]
    next => exact ih distinct

theorem get?_perm {entries others : Keyed α} (perm : entries.Perm others) (nodup : (keys entries).Nodup)
    (key : String) : get? others key = get? entries key := by
  have nodup' : (keys others).Nodup := (perm.map Prod.fst).nodup_iff.mp nodup
  by_cases member : key ∈ keys entries
  · obtain ⟨value, found⟩ := exists_get?_of_mem_keys member
    rw [found]
    exact get?_of_mem nodup' (perm.mem_iff.mp (mem_of_get? found))
  · have missing : key ∉ keys others := fun other => member ((perm.map Prod.fst).mem_iff.mpr other)
    rw [get?_eq_none member, get?_eq_none missing]

end Keyed

class UnderstandsNames (α : Type) [Spelled α] : Prop where
  ofName?_name : ∀ value : α, Spelled.ofName? (Spelled.name value) = some value

namespace Document

/-- How a kind of value stands in documents: what is written for a value, what is read, the single changes of a document
that leave its value as it is, and those after which it has none. -/
structure Form (α : Type) where
  write : α → Document
  read? : Document → Option α
  Edits : Document → Document → Prop
  Breaks : Document → Document → Prop

/-- A field of a record, with the value that it has where it is left out, if it may be. -/
structure RecordField (α : Type) where
  {Value : Type}
  name : String
  form : Form Value
  get : α → Value
  absent? : Option Value

namespace RecordField

variable {α β : Type}

abbrev required (name : String) (form : Form β) (get : α → β) : RecordField α := ⟨name, form, get, none⟩

abbrev optional (name : String) (form : Form β) (get : α → β) (absent : β) : RecordField α :=
  ⟨name, form, get, some absent⟩

def read? (field : RecordField α) (members : Keyed Document) : Option field.Value :=
  match members.get? field.name with
  | some document => field.form.read? document
  | none => field.absent?

section

variable (name : String) (form : Form β) (get : α → β) (absent : β)

@[simp] theorem read?_required (members : Keyed Document) :
    (required name form get).read? members = required? members name form.read? := by
  show (match members.get? name with | some document => form.read? document | none => none) = _
  unfold required?
  cases members.get? name <;> rfl

@[simp] theorem read?_optional (members : Keyed Document) :
    (optional name form get absent).read? members = optional? members name form.read? absent := rfl

end

end RecordField

variable {α : Type}

/-- Changes of a record that keep its value: its members in another order, a member that is no field of it, a field less
that has the value it has by default, and a change of that kind within a field. -/
inductive RecordEdits (fields : List (RecordField α)) : Document → Document → Prop
  | reorder {members others : List (String × Document)} (perm : members.Perm others) :
      RecordEdits fields (object members) (object others)
  | add {before after : List (String × Document)} {name : String} {document : Document}
      (foreign : ∀ field ∈ fields, field.name ≠ name) :
      RecordEdits fields (object (before ++ after)) (object (before ++ (name, document) :: after))
  | leaveOut {before after : List (String × Document)} {field : RecordField α} {value : field.Value}
      (inside : field ∈ fields) (absent : field.absent? = some value) :
      RecordEdits fields (object (before ++ (field.name, field.form.write value) :: after)) (object (before ++ after))
  | within {before after : List (String × Document)} {field : RecordField α} {document other : Document}
      (inside : field ∈ fields) (edits : field.form.Edits document other) :
      RecordEdits fields (object (before ++ (field.name, document) :: after))
        (object (before ++ (field.name, other) :: after))

/-- Changes of a record that leave it without a value: a field less that has to be there, a field that comes again, and
a change of that kind within a field. -/
inductive RecordBreaks (fields : List (RecordField α)) : Document → Document → Prop
  | leaveOut {before after : List (String × Document)} {field : RecordField α} {document : Document}
      (inside : field ∈ fields) (needed : field.absent? = none) :
      RecordBreaks fields (object (before ++ (field.name, document) :: after)) (object (before ++ after))
  | again {before after : List (String × Document)} {field : RecordField α} {document : Document}
      (inside : field ∈ fields) (present : field.name ∈ (before ++ after).map Prod.fst) :
      RecordBreaks fields (object (before ++ after)) (object (before ++ (field.name, document) :: after))
  | within {before after : List (String × Document)} {field : RecordField α} {document other : Document}
      (inside : field ∈ fields) (breaks : field.form.Breaks document other) :
      RecordBreaks fields (object (before ++ (field.name, document) :: after))
        (object (before ++ (field.name, other) :: after))

inductive InItem (change : Document → Document → Prop) : Document → Document → Prop
  | intro {before after : List Document} {document other : Document} (changed : change document other) :
      InItem change (.array (before ++ document :: after)) (.array (before ++ other :: after))

inductive InMember (change : Document → Document → Prop) : Document → Document → Prop
  | intro {before after : List (String × Document)} {name : String} {document other : Document}
      (changed : change document other) :
      InMember change (object (before ++ (name, document) :: after)) (object (before ++ (name, other) :: after))

namespace Form

/-- Values in which there is nothing to change. -/
def plain (write : α → Document) (read? : Document → Option α) : Form α where
  write
  read?
  Edits _ _ := False
  Breaks _ _ := False

def text : Form String := plain ofString string?

def flag : Form Bool := plain .bool bool?

def texts : Form (List String) := plain strings strings?

def spelled [Spelled α] : Form α := plain ofSpelled spelled?

def option (form : Form α) : Form (Option α) := plain (ofOption form.write) (option? form.read?)

def list (item : Form α) : Form (List α) where
  write := ofList item.write
  read? := list? item.read?
  Edits := InItem item.Edits
  Breaks := InItem item.Breaks

def keyed (value : Form α) : Form (Keyed α) where
  write := ofKeyed value.write
  read? := keyed? value.read?
  Edits := InMember value.Edits
  Breaks := InMember value.Breaks

def record (write : α → Document) (read? : Document → Option α) (fields : List (RecordField α)) : Form α where
  write
  read?
  Edits := RecordEdits fields
  Breaks := RecordBreaks fields

@[simp] theorem read?_text : text.read? = string? := rfl

@[simp] theorem read?_flag : flag.read? = bool? := rfl

@[simp] theorem read?_texts : texts.read? = strings? := rfl

@[simp] theorem read?_spelled [Spelled α] : (spelled : Form α).read? = spelled? := rfl

@[simp] theorem read?_option (form : Form α) : form.option.read? = option? form.read? := rfl

@[simp] theorem read?_list (form : Form α) : form.list.read? = list? form.read? := rfl

@[simp] theorem read?_keyed (form : Form α) : form.keyed.read? = keyed? form.read? := rfl

@[simp] theorem read?_record (write : α → Document) (read? : Document → Option α) (fields : List (RecordField α)) :
    (record write read? fields).read? = read? := rfl

structure Lawful (form : Form α) : Prop where
  edited : ∀ {document other value}, form.Edits document other → form.read? document = some value →
    form.read? other = some value
  broken : ∀ {document other value}, form.Breaks document other → form.read? document = some value →
    form.read? other = none

def Restores (form : Form α) (value : α) : Prop := form.read? (form.write value) = some value

theorem lawful_plain (write : α → Document) (read? : Document → Option α) : (plain write read?).Lawful :=
  ⟨fun edits => edits.elim, fun breaks => breaks.elim⟩

@[simp] theorem lawful_text : text.Lawful := lawful_plain ..

@[simp] theorem lawful_flag : flag.Lawful := lawful_plain ..

@[simp] theorem lawful_texts : texts.Lawful := lawful_plain ..

@[simp] theorem lawful_spelled [Spelled α] : (spelled : Form α).Lawful := lawful_plain ..

@[simp] theorem lawful_option (form : Form α) : form.option.Lawful := lawful_plain ..

@[simp] theorem restores_text (value : String) : text.Restores value := rfl

@[simp] theorem restores_flag (value : Bool) : flag.Restores value := rfl

@[simp] theorem restores_spelled [Spelled α] [UnderstandsNames α] (value : α) : spelled.Restores value :=
  UnderstandsNames.ofName?_name value

theorem restores_option {form : Form α} (stated : ∀ value, form.write value ≠ .null)
    (each : ∀ value, form.Restores value) (value : Option α) : form.option.Restores value := by
  cases value with
  | none => rfl
  | some value =>
    have restored : form.read? (form.write value) = some value := each value
    show option? form.read? (form.write value) = some (some value)
    unfold option?
    split
    next null => exact absurd null (stated value)
    next => rw [restored, Option.map_some]

@[simp] theorem restores_option_text (value : Option String) : text.option.Restores value :=
  restores_option (fun value => (nofun : .text (some value) ≠ null)) restores_text value

@[simp] theorem restores_option_flag (value : Option Bool) : flag.option.Restores value :=
  restores_option (fun value => (nofun : .bool value ≠ null)) restores_flag value

@[simp] theorem restores_option_spelled [Spelled α] [UnderstandsNames α] (value : Option α) :
    (spelled : Form α).option.Restores value :=
  restores_option (fun value => (nofun : .text (some (Spelled.name value)) ≠ null)) restores_spelled value

/-! Lists and tables: a value is read from all of the items or members. -/

section

variable {form : Form α}

@[simp] theorem lawful_list (lawful : form.Lawful) : form.list.Lawful where
  edited := by
    intro document other values edits read
    obtain ⟨changed⟩ := edits
    exact mapM_middle_of_eq_some (fun _ => lawful.edited changed) read
  broken := by
    intro document other values breaks read
    obtain ⟨changed⟩ := breaks
    obtain ⟨value, found⟩ := exists_of_mapM_middle_eq_some read
    exact mapM_middle_eq_none (lawful.broken changed found)

theorem restores_list {values : List α} (each : ∀ value ∈ values, form.Restores value) :
    form.list.Restores values := by
  show (values.map form.write).mapM form.read? = some values
  rw [mapM_eq_some_iff, List.forall₂_map_left_iff, List.forall₂_same]
  exact each

@[simp] theorem restores_texts (values : List String) : texts.Restores values :=
  @restores_list _ text values fun _ _ => rfl

@[simp] theorem restores_option_texts (value : Option (List String)) : texts.option.Restores value :=
  restores_option (fun value => (nofun : .array (value.map ofString) ≠ null)) restores_texts value

@[simp] theorem restores_list_nil : form.list.Restores [] := rfl

@[simp] theorem restores_keyed_nil : form.keyed.Restores [] := rfl

theorem read?_keyed_object (form : Form α) (members : List (String × Document)) :
    form.keyed.read? (object members) =
      (members.mapM fun member => (form.read? member.2).map fun value => (member.1, value)).map Keyed.ofPairs := by
  simp only [keyed, keyed?, object, List.mapM_map]
  congr 2
  funext member
  simp only [member?, Function.comp_apply]
  cases form.read? member.2 <;> rfl

@[simp] theorem lawful_keyed (lawful : form.Lawful) : form.keyed.Lawful where
  edited := by
    intro document other entries edits read
    obtain ⟨changed⟩ := edits
    rw [read?_keyed_object] at read ⊢
    obtain ⟨pairs, passed, rfl⟩ := Option.map_eq_some_iff.mp read
    rw [mapM_middle_of_eq_some ?_ passed, Option.map_some]
    intro pair named
    obtain ⟨value, found, rfl⟩ := Option.map_eq_some_iff.mp named
    rw [lawful.edited changed found, Option.map_some]
  broken := by
    intro document other entries breaks read
    obtain ⟨changed⟩ := breaks
    rw [read?_keyed_object] at read ⊢
    obtain ⟨pairs, passed, -⟩ := Option.map_eq_some_iff.mp read
    obtain ⟨pair, named⟩ := exists_of_mapM_middle_eq_some passed
    obtain ⟨value, found, -⟩ := Option.map_eq_some_iff.mp named
    rw [Option.map_eq_none_iff]
    apply mapM_middle_eq_none
    rw [lawful.broken changed found, Option.map_none]

theorem restores_keyed {entries : Keyed α} (nodup : entries.keys.Nodup)
    (each : ∀ entry ∈ entries, form.Restores entry.2) : form.keyed.Restores entries := by
  have written : form.keyed.write entries = object (entries.map fun entry => (entry.1, form.write entry.2)) := rfl
  have passed : (entries.map fun entry => (entry.1, form.write entry.2)).mapM
      (fun member => (form.read? member.2).map fun value => (member.1, value)) = some entries := by
    rw [mapM_eq_some_iff, List.forall₂_map_left_iff, List.forall₂_same]
    intro entry member
    have restored : form.read? (form.write entry.2) = some entry.2 := each entry member
    rw [restored, Option.map_some]
  rw [Restores, written, read?_keyed_object, passed, Option.map_some, Keyed.ofPairs_of_nodup nodup]

end

/-! Records: a value is read from each of the fields. -/

section

variable {read? : Document → Option α} {write : α → Document} {fields : List (RecordField α)}

def ownMembers (fields : List (RecordField α)) (members : Keyed Document) : Keyed Document :=
  members.filter fun member => (fields.map (·.name)).contains member.1

theorem ownMembers_append (before after : Keyed Document) :
    ownMembers fields (before ++ after) = ownMembers fields before ++ ownMembers fields after :=
  List.filter_append ..

theorem ownMembers_cons {field : RecordField α} (inside : field ∈ fields) (document : Document)
    (after : Keyed Document) :
    ownMembers fields ((field.name, document) :: after) = (field.name, document) :: ownMembers fields after := by
  have own : (fields.map (·.name)).contains field.name = true :=
    List.contains_iff_mem.mpr (List.mem_map_of_mem inside)
  exact List.filter_cons_of_pos own

theorem ownMembers_cons_of_foreign {name : String} (foreign : ∀ field ∈ fields, field.name ≠ name)
    (document : Document) (after : Keyed Document) :
    ownMembers fields ((name, document) :: after) = ownMembers fields after := by
  have other : ¬(fields.map (·.name)).contains name = true := by
    rw [List.contains_iff_mem, List.mem_map]
    rintro ⟨field, inside, same⟩
    exact foreign field inside same
  exact List.filter_cons_of_neg other

theorem mem_keys_ownMembers {field : RecordField α} (inside : field ∈ fields) {members : Keyed Document}
    (present : field.name ∈ members.keys) : field.name ∈ (ownMembers fields members).keys := by
  obtain ⟨member, found, same⟩ := List.mem_map.mp present
  have own : (fields.map (·.name)).contains member.1 = true :=
    List.contains_iff_mem.mpr (same ▸ List.mem_map_of_mem inside)
  exact same ▸ List.mem_map_of_mem (List.mem_filter.mpr ⟨found, own⟩)

theorem fields?_object (members : Keyed Document) :
    fields? (fields.map (·.name)) (object members) =
      if (ownMembers fields members).keys.Nodup then some (ownMembers fields members) else none := by
  have known : knownMembers (fields.map (·.name)) (members.map fun member => (some member.1, member.2)) =
      ownMembers fields members := by
    rw [knownMembers, List.filterMap_map, ownMembers, ← List.filterMap_eq_filter]
    rfl
  have named : (members.map fun member => (some member.1, member.2)).all (fun member => member.1.isSome) = true := by
    simp
  simp only [object, fields?, known, named, Bool.true_and, decide_eq_true_eq]

structure ReadsFields (read? : Document → Option α) (fields : List (RecordField α)) : Prop where
  distinct : (fields.map (·.name)).Nodup
  read?_iff : ∀ {document value}, read? document = some value ↔
    ∃ known, fields? (fields.map (·.name)) document = some known ∧
      ∀ field ∈ fields, field.read? known = some (field.get value)

namespace ReadsFields

theorem read?_object_iff (reads : ReadsFields read? fields) {members : Keyed Document} {value : α} :
    read? (object members) = some value ↔
      (ownMembers fields members).keys.Nodup ∧
        ∀ field ∈ fields, field.read? (ownMembers fields members) = some (field.get value) := by
  rw [reads.read?_iff, fields?_object]
  split
  next nodup =>
    simp only [Option.some.injEq, nodup, true_and]
    exact ⟨fun ⟨_, same, each⟩ => same ▸ each, fun each => ⟨_, rfl, each⟩⟩
  next repeated => simp [repeated]

theorem read?_middle_iff (reads : ReadsFields read? fields) {field : RecordField α} (inside : field ∈ fields)
    {before after : Keyed Document} {document : Document} {value : α} :
    read? (object (before ++ (field.name, document) :: after)) = some value ↔
      ((ownMembers fields before).keys ++ field.name :: (ownMembers fields after).keys).Nodup ∧
        field.form.read? document = some (field.get value) ∧
          ∀ other ∈ fields, other ≠ field →
            other.read? (ownMembers fields before ++ ownMembers fields after) = some (other.get value) := by
  rw [reads.read?_object_iff, ownMembers_append, ownMembers_cons inside]
  have names : Keyed.keys (ownMembers fields before ++ (field.name, document) :: ownMembers fields after) =
      (ownMembers fields before).keys ++ field.name :: (ownMembers fields after).keys := List.map_append ..
  rw [names]
  refine and_congr_right fun nodup => ?_
  rw [← names] at nodup
  have own : field.read? (ownMembers fields before ++ (field.name, document) :: ownMembers fields after) =
      field.form.read? document := by
    rw [RecordField.read?, Keyed.get?_middle nodup, if_pos rfl]
  have others (other : RecordField α) (inside' : other ∈ fields) (different : other ≠ field) :
      other.read? (ownMembers fields before ++ (field.name, document) :: ownMembers fields after) =
        other.read? (ownMembers fields before ++ ownMembers fields after) := by
    have apart : other.name ≠ field.name := fun same =>
      different (List.inj_on_of_nodup_map reads.distinct inside' inside same)
    rw [RecordField.read?, Keyed.get?_middle nodup, if_neg apart, RecordField.read?]
  constructor
  · intro each
    exact ⟨own.symm.trans (each field inside), fun other inside' different =>
      (others other inside' different).symm.trans (each other inside')⟩
  · intro given other inside'
    by_cases same : other = field
    · subst same
      exact own.trans given.1
    · exact (others other inside' same).trans (given.2 other inside' same)

theorem read?_without_iff (reads : ReadsFields read? fields) {field : RecordField α} (inside : field ∈ fields)
    {before after : Keyed Document} {value : α}
    (nodup : ((ownMembers fields before).keys ++ field.name :: (ownMembers fields after).keys).Nodup) :
    read? (object (before ++ after)) = some value ↔
      field.absent? = some (field.get value) ∧
        ∀ other ∈ fields, other ≠ field →
          other.read? (ownMembers fields before ++ ownMembers fields after) = some (other.get value) := by
  have names : (Keyed.keys (ownMembers fields before ++ ownMembers fields after)) =
      (ownMembers fields before).keys ++ (ownMembers fields after).keys := List.map_append ..
  have fewer := nodup.sublist ((List.Sublist.refl _).append (List.sublist_cons_self _ _))
  have missing : field.name ∉ Keyed.keys (ownMembers fields before ++ ownMembers fields after) :=
    names ▸ (List.nodup_middle.mp nodup |> List.nodup_cons.mp).1
  have own : field.read? (ownMembers fields before ++ ownMembers fields after) = field.absent? := by
    rw [RecordField.read?, Keyed.get?_eq_none missing]
  rw [reads.read?_object_iff, ownMembers_append, names, ← own]
  constructor
  · intro given
    exact ⟨given.2 field inside, fun other inside' _ => given.2 other inside'⟩
  · intro given
    refine ⟨fewer, fun other inside' => ?_⟩
    by_cases same : other = field
    · subst same
      exact given.1
    · exact given.2 other inside' same

end ReadsFields

variable (reads : ReadsFields read? fields) (lawful : ∀ field ∈ fields, field.form.Lawful)
include reads lawful

theorem edited_record
    (defaults : ∀ field ∈ fields, ∀ absent, field.absent? = some absent → field.form.Restores absent)
    {document other : Document} {value : α} (edits : RecordEdits fields document other)
    (read : read? document = some value) : read? other = some value := by
  cases edits with
  | reorder perm =>
    rw [reads.read?_object_iff] at read ⊢
    obtain ⟨nodup, each⟩ := read
    have own := perm.filter fun member => (fields.map (·.name)).contains member.1
    refine ⟨(own.map Prod.fst).nodup_iff.mp nodup, fun field inside => ?_⟩
    rw [← each field inside, RecordField.read?, RecordField.read?, ownMembers, ownMembers, Keyed.get?_perm own nodup]
  | add foreign =>
    rw [reads.read?_object_iff] at read ⊢
    rwa [ownMembers_append, ownMembers_cons_of_foreign foreign, ← ownMembers_append]
  | leaveOut inside left =>
    obtain ⟨nodup, written, others⟩ := (reads.read?_middle_iff inside).mp read
    have restored := (defaults _ inside _ left).symm.trans written
    exact (reads.read?_without_iff inside nodup).mpr ⟨left.trans restored, others⟩
  | within inside changed =>
    obtain ⟨nodup, within, others⟩ := (reads.read?_middle_iff inside).mp read
    exact (reads.read?_middle_iff inside).mpr ⟨nodup, (lawful _ inside).edited changed within, others⟩

theorem broken_record {document other : Document} {value : α} (breaks : RecordBreaks fields document other)
    (read : read? document = some value) : read? other = none := by
  apply Option.eq_none_iff_forall_ne_some.mpr
  intro value' read'
  cases breaks with
  | leaveOut inside needed =>
    obtain ⟨nodup, -, -⟩ := (reads.read?_middle_iff inside).mp read
    have left := ((reads.read?_without_iff inside nodup).mp read').1
    exact nomatch needed.symm.trans left
  | again inside present =>
    obtain ⟨nodup, -, -⟩ := (reads.read?_middle_iff inside).mp read'
    have member := mem_keys_ownMembers inside present
    rw [ownMembers_append, Keyed.keys, List.map_append] at member
    exact (List.nodup_middle.mp nodup |> List.nodup_cons.mp).1 member
  | within inside changed =>
    obtain ⟨-, within, -⟩ := (reads.read?_middle_iff inside).mp read
    obtain ⟨-, within', -⟩ := (reads.read?_middle_iff inside).mp read'
    exact nomatch ((lawful _ inside).broken changed within).symm.trans within'

/-- A record does what is meant for it if its fields do and what is written where a field may be left out is the value
read then. -/
theorem lawful_record
    (defaults : ∀ field ∈ fields, ∀ absent, field.absent? = some absent → field.form.Restores absent) :
    (record write read? fields).Lawful :=
  ⟨edited_record reads lawful defaults, broken_record reads lawful⟩

omit lawful

theorem restores_record {value : α}
    (written : write value = object (fields.map fun field => (field.name, field.form.write (field.get value))))
    (each : ∀ field ∈ fields, field.form.Restores (field.get value)) :
    (record write read? fields).Restores value := by
  have own : ownMembers fields (fields.map fun field => (field.name, field.form.write (field.get value))) =
      fields.map fun field => (field.name, field.form.write (field.get value)) := by
    rw [ownMembers, List.filter_eq_self]
    intro member present
    obtain ⟨field, inside, rfl⟩ := List.mem_map.mp present
    have named : field.name ∈ fields.map (·.name) := List.mem_map_of_mem inside
    exact List.contains_iff_mem.mpr named
  have names : Keyed.keys (fields.map fun field => (field.name, field.form.write (field.get value))) =
      fields.map (·.name) := by
    rw [Keyed.keys, List.map_map]
    rfl
  show read? (write value) = some value
  rw [written, reads.read?_object_iff, own, names]
  refine ⟨reads.distinct, fun field inside => ?_⟩
  have member : (field.name, field.form.write (field.get value)) ∈
      fields.map fun field => (field.name, field.form.write (field.get value)) :=
    List.mem_map.mpr ⟨field, inside, rfl⟩
  rw [RecordField.read?, Keyed.get?_of_mem (names ▸ reads.distinct) member]
  exact each field inside

end

theorem Lawful.read?_of_edits {form : Form α} (lawful : form.Lawful) {value : α} (restores : form.Restores value)
    {document : Document} (edited : Relation.ReflTransGen form.Edits (form.write value) document) :
    form.read? document = some value := by
  induction edited with
  | refl => exact restores
  | tail _ edits ih => exact lawful.edited edits ih

end Form

end Document

end Listfile
