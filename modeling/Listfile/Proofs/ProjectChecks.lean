import Listfile.ProjectDocument
import Mathlib.Data.List.Nodup
import Mathlib.Logic.Relation

/-!
The security checks of a project file as a search of its tree: each value is that of the one element that the search
finds, wherever it stands. The order of siblings has no part in it, as long as every check starts with its own text.
-/

namespace Listfile

/-! Nodes by the places where they stand. -/

namespace Xml.Node

/-- The node at a place, which is given by the indices of the children on the way to it. -/
def at? (node : Node) : List Nat → Option Node
  | [] => some node
  | index :: rest => node.children[index]?.bind fun child => child.at? rest

theorem descendantsOfAll_eq (nodes : List Node) : descendantsOfAll nodes = nodes.flatMap descendants := by
  induction nodes with
  | nil => rfl
  | cons node rest ih => rw [descendantsOfAll, ih, List.flatMap_cons]

theorem descendants_eq (node : Node) : node.descendants = node :: node.children.flatMap descendants := by
  cases node with
  | element name attributes inner => rw [descendants, descendantsOfAll_eq]; rfl
  | text content => rfl
  | remark => rfl

theorem sizeOf_lt_of_mem_children {node child : Node} (member : child ∈ node.children) :
    sizeOf child < sizeOf node := by
  cases node with
  | element name attributes children =>
    have inside : sizeOf child < sizeOf children := List.sizeOf_lt_of_mem member
    rw [element.sizeOf_spec]
    omega
  | text content => simp [children] at member
  | remark => simp [children] at member

end Xml.Node

/-- Whether a list holds what stands at the places of a tree that `holds` tells of, one element for each place. -/
def Enumerates {α : Type} (holds : List Nat → α → Prop) (l : List α) : Prop :=
  ∃ placed : List (List Nat × α), placed.map Prod.snd = l ∧ (placed.map Prod.fst).Nodup ∧
    ∀ place x, (place, x) ∈ placed ↔ holds place x

namespace Enumerates

variable {α β : Type} {holds : List Nat → α → Prop} {l : List α}

theorem congr {others : List Nat → α → Prop} (listed : Enumerates holds l)
    (same : ∀ place x, holds place x ↔ others place x) : Enumerates others l := by
  obtain ⟨placed, values, apart, complete⟩ := listed
  exact ⟨placed, values, apart, fun place x => (complete place x).trans (same place x)⟩

theorem mem_iff (listed : Enumerates holds l) {x : α} : x ∈ l ↔ ∃ place, holds place x := by
  obtain ⟨placed, rfl, -, complete⟩ := listed
  simp [← complete]

theorem singleton (place : List Nat) (x : α) : Enumerates (fun own y => own = place ∧ y = x) [x] :=
  ⟨[(place, x)], rfl, by simp, by simp⟩

theorem append {others : List Nat → α → Prop} {behind : List α} (listed : Enumerates holds l)
    (listed' : Enumerates others behind) (apart : ∀ place x y, holds place x → ¬ others place y) :
    Enumerates (fun place x => holds place x ∨ others place x) (l ++ behind) := by
  obtain ⟨placed, rfl, nodup, complete⟩ := listed
  obtain ⟨placed', rfl, nodup', complete'⟩ := listed'
  refine ⟨placed ++ placed', List.map_append, ?_, fun place x => ?_⟩
  · rw [List.map_append, List.nodup_append']
    refine ⟨nodup, nodup', ?_⟩
    intro place member member'
    obtain ⟨⟨place, x⟩, inside, rfl⟩ := List.mem_map.mp member
    obtain ⟨⟨other, y⟩, inside', rfl⟩ := List.mem_map.mp member'
    exact apart _ x y ((complete _ x).mp inside) ((complete' _ y).mp inside')
  · rw [List.mem_append, complete, complete']

theorem filter (listed : Enumerates holds l) (keep : α → Bool) :
    Enumerates (fun place x => holds place x ∧ keep x = true) (l.filter keep) := by
  obtain ⟨placed, rfl, nodup, complete⟩ := listed
  refine ⟨placed.filter fun entry => keep entry.2, ?_, ?_, fun place x => ?_⟩
  · rw [List.filter_map]
    rfl
  · exact nodup.sublist (List.filter_sublist.map _)
  · rw [List.mem_filter, complete]

theorem flatMap {inner : α → List Nat → β → Prop} {f : α → List β} (listed : Enumerates holds l)
    (below : ∀ x ∈ l, Enumerates (inner x) (f x))
    (tells : ∀ {front front' x x' rest rest' y y'}, holds front x → holds front' x' → inner x rest y →
      inner x' rest' y' → front ++ rest = front' ++ rest' → front = front') :
    Enumerates (fun place y => ∃ front x rest, place = front ++ rest ∧ holds front x ∧ inner x rest y)
      (l.flatMap f) := by
  have chosen : ∀ x, ∃ placed : List (List Nat × β), x ∈ l → placed.map Prod.snd = f x ∧
      (placed.map Prod.fst).Nodup ∧ ∀ place y, (place, y) ∈ placed ↔ inner x place y := by
    intro x
    by_cases member : x ∈ l
    · obtain ⟨placed, given⟩ := below x member
      exact ⟨placed, fun _ => given⟩
    · exact ⟨[], fun inside => absurd inside member⟩
  -- The places below each node are chosen for good, and put behind that of the node.
  choose placedIn given using chosen
  obtain ⟨placed, rfl, nodup, complete⟩ := listed
  have inside {entry : List Nat × α} (member : entry ∈ placed) : entry.2 ∈ placed.map Prod.snd :=
    List.mem_map_of_mem member
  refine ⟨placed.flatMap fun entry => (placedIn entry.2).map fun own => (entry.1 ++ own.1, own.2), ?_, ?_,
    fun place y => ?_⟩
  · rw [List.map_flatMap, List.flatMap_map]
    refine List.flatMap_congr fun entry member => ?_
    rw [List.map_map, ← (given _ (inside member)).1]
    rfl
  · rw [List.map_flatMap, List.nodup_flatMap]
    refine ⟨fun entry member => ?_, ?_⟩
    · rw [List.map_map]
      have own := (given _ (inside member)).2.1.map (List.append_right_injective entry.1)
      rwa [List.map_map] at own
    · refine (List.pairwise_map.mp nodup).imp_of_mem fun {first second} member member' different => ?_
      simp only [Function.onFun, List.map_map]
      intro place found found'
      obtain ⟨⟨rest, y⟩, own, rfl⟩ := List.mem_map.mp found
      obtain ⟨⟨rest', y'⟩, own', same⟩ := List.mem_map.mp found'
      exact different (tells ((complete _ _).mp member) ((complete _ _).mp member')
        (((given _ (inside member)).2.2 _ _).mp own) (((given _ (inside member')).2.2 _ _).mp own') same.symm)
  · simp only [List.mem_flatMap, List.mem_map, Prod.mk.injEq, Prod.exists]
    constructor
    · rintro ⟨front, x, member, rest, y, own, rfl, rfl⟩
      exact ⟨front, x, rest, rfl, (complete _ _).mp member, ((given _ (inside member)).2.2 _ _).mp own⟩
    · rintro ⟨front, x, rest, rfl, found, own⟩
      have member := (complete _ _).mpr found
      exact ⟨front, x, member, rest, y, ((given _ (inside member)).2.2 _ _).mpr own, rfl, rfl⟩

theorem eq_singleton_iff (listed : Enumerates holds l) {x : α} :
    l = [x] ↔ ∃ place, holds place x ∧ ∀ other y, holds other y → other = place := by
  obtain ⟨placed, rfl, nodup, complete⟩ := listed
  constructor
  · intro single
    obtain ⟨⟨place, y⟩, only, rfl⟩ := List.map_eq_singleton_iff.mp single
    refine ⟨place, (complete _ _).mp (only ▸ List.mem_singleton_self _), fun other y held => ?_⟩
    have member := (complete _ _).mpr held
    rw [only, List.mem_singleton] at member
    exact congrArg Prod.fst member
  · rintro ⟨place, held, only⟩
    have member := (complete _ _).mpr held
    cases placed with
    | nil => simp at member
    | cons first rest =>
      rw [List.map_cons, List.nodup_cons] at nodup
      have none : rest = [] := by
        refine List.eq_nil_iff_forall_not_mem.mpr fun entry inside => nodup.1 ?_
        have own := only _ _ ((complete first.1 first.2).mp List.mem_cons_self)
        have other := only _ _ ((complete entry.1 entry.2).mp (List.mem_cons_of_mem _ inside))
        exact List.mem_map.mpr ⟨entry, inside, other.trans own.symm⟩
      rw [none, List.mem_singleton] at member
      rw [none, ← member]
      rfl

end Enumerates

/-! The two searches. -/

namespace Xml.Node

structure HasChild (node : Node) (index : Nat) (name : String) (child : Node) : Prop where
  found : node.children[index]? = some child
  named : child.name? = some name

def States (node : Node) (name : String) (read : String → String) (value : String) : Prop :=
  (node.attribute? name).map read = some (read value)

instance (node : Node) (name : String) (read : String → String) (value : String) :
    Decidable (node.States name read value) :=
  inferInstanceAs (Decidable (_ = _))

variable {node : Node}

theorem enumerates_children (node : Node) :
    Enumerates (fun place child => ∃ index, place = [index] ∧ node.children[index]? = some child) node.children := by
  refine ⟨node.children.zipIdx.map fun entry => ([entry.2], entry.1), ?_, ?_, fun place child => ?_⟩
  · rw [List.map_map]
    exact List.zipIdx_map_fst 0 _
  · rw [List.map_map]
    have indices : (node.children.zipIdx.map fun entry => entry.2).Nodup := by
      rw [← List.unzip_snd, List.unzip_zipIdx_eq_prod]
      exact List.nodup_range' ..
    have places := indices.map (f := fun index : Nat => [index]) fun _ _ same => List.singleton_inj.mp same
    rwa [List.map_map] at places
  · simp only [List.mem_map, Prod.exists, List.mem_zipIdx_iff_getElem?, Prod.mk.injEq]
    constructor
    · rintro ⟨own, index, found, rfl, rfl⟩
      exact ⟨index, rfl, found⟩
    · rintro ⟨index, rfl, found⟩
      exact ⟨child, index, found, rfl, rfl⟩

theorem enumerates_childrenNamed (node : Node) (name : String) :
    Enumerates (fun place child => ∃ index, place = [index] ∧ node.HasChild index name child)
      (node.childrenNamed name) := by
  refine ((enumerates_children node).filter _).congr fun place child => ?_
  simp only [decide_eq_true_eq]
  constructor
  · rintro ⟨⟨index, rfl, found⟩, named⟩
    exact ⟨index, rfl, found, named⟩
  · rintro ⟨index, rfl, found, named⟩
    exact ⟨⟨index, rfl, found⟩, named⟩

theorem enumerates_descendants (node : Node) :
    Enumerates (fun place inner => node.at? place = some inner) node.descendants := by
  have below : ∀ child ∈ node.children,
      Enumerates (fun place inner => child.at? place = some inner) child.descendants := fun child member =>
    have : sizeOf child < sizeOf node := sizeOf_lt_of_mem_children member
    enumerates_descendants child
  have inner := (enumerates_children node).flatMap below (by
    rintro front front' x x' rest rest' y y' ⟨index, rfl, -⟩ ⟨index', rfl, -⟩ - - same
    rw [List.singleton_append, List.singleton_append, List.cons.injEq] at same
    rw [same.1])
  rw [descendants_eq]
  refine ((Enumerates.singleton [] node).append inner ?_).congr fun place found => ?_
  · rintro place x y ⟨rfl, rfl⟩ ⟨front, child, rest, same, ⟨index, rfl, -⟩, -⟩
    simp at same
  · cases place with
    | nil => simp [at?, eq_comm]
    | cons index rest =>
      simp only [at?, Option.bind_eq_some_iff, reduceCtorEq, false_and, false_or]
      constructor
      · rintro ⟨front, child, others, same, ⟨own, rfl, at'⟩, reached⟩
        obtain ⟨rfl, rfl⟩ := List.cons.inj same
        exact ⟨child, at', reached⟩
      · rintro ⟨child, at', reached⟩
        exact ⟨[index], child, rest, rfl, ⟨index, rfl, at'⟩, reached⟩
termination_by sizeOf node

end Xml.Node

theorem Enumerates.childrenNamed {holds : List Nat → Xml.Node → Prop} {nodes : List Xml.Node}
    (listed : Enumerates holds nodes) (name : String) :
    Enumerates (fun place child => ∃ front node index, place = front ++ [index] ∧ holds front node ∧
      node.HasChild index name child) (nodes.flatMap (·.childrenNamed name)) := by
  refine (listed.flatMap (fun node _ => node.enumerates_childrenNamed name) ?_).congr fun place child => ?_
  · rintro front front' x x' rest rest' y y' - - ⟨index, rfl, -⟩ ⟨index', rfl, -⟩ same
    exact (List.append_inj' same rfl).1
  · constructor
    · rintro ⟨front, node, rest, rfl, held, index, rfl, has⟩
      exact ⟨front, node, index, rfl, held, has⟩
    · rintro ⟨front, node, index, rfl, held, has⟩
      exact ⟨front, node, [index], rfl, held, index, rfl, has⟩

namespace ProjectDocument

open Xml

variable {root : Node} {file condition : String}

/-- Whether a check of the project stands at a place: among the compiler settings of a group with that condition,
wherever the group is. -/
inductive IsProjectCheck (root : Node) (condition : String) : List Nat → Node → Prop
  | intro {above : List Nat} {index own : Nat} {group settings check : Node} (found : root.at? above = some group)
      (named : group.name? = some "ItemDefinitionGroup") (stated : group.States "Condition" Text.trim condition)
      (inGroup : group.HasChild index "ClCompile" settings) (inside : settings.HasChild own "SDLCheck" check) :
      IsProjectCheck root condition (above ++ [index, own]) check

/-- Whether a check of a file stands at a place: with that condition, at the file in a group right below the root. -/
inductive IsFileCheck (root : Node) (file condition : String) : List Nat → Node → Prop
  | intro {index inner own : Nat} {group item check : Node} (inRoot : root.HasChild index "ItemGroup" group)
      (inGroup : group.HasChild inner "ClCompile" item) (included : item.States "Include" fileKey file)
      (inside : item.HasChild own "SDLCheck" check) (stated : check.States "Condition" Text.trim condition) :
      IsFileCheck root file condition [index, inner, own] check

def projectNodes (root : Node) (condition : String) : List Node :=
  (((root.descendants.filter fun node => node.name? = some "ItemDefinitionGroup").filter fun group =>
    group.States "Condition" Text.trim condition).flatMap (·.childrenNamed "ClCompile")).flatMap
      (·.childrenNamed "SDLCheck")

def fileNodes (root : Node) (file condition : String) : List Node :=
  ((((root.childrenNamed "ItemGroup").flatMap (·.childrenNamed "ClCompile")).filter fun item =>
    item.States "Include" fileKey file).flatMap (·.childrenNamed "SDLCheck")).filter fun check =>
      check.States "Condition" Text.trim condition

theorem enumerates_projectNodes (root : Node) (condition : String) :
    Enumerates (IsProjectCheck root condition) (projectNodes root condition) := by
  refine ((((root.enumerates_descendants.filter _).filter _).childrenNamed _).childrenNamed _).congr
    fun place check => ?_
  simp only [decide_eq_true_eq]
  constructor
  · rintro ⟨front, settings, own, rfl, ⟨above, group, index, rfl, ⟨⟨found, named⟩, stated⟩, has⟩, has'⟩
    rw [List.append_assoc]
    exact .intro found named stated has has'
  · rintro ⟨found, named, stated, has, has'⟩
    exact ⟨_, _, _, (List.append_assoc _ [_] [_]).symm, ⟨_, _, _, rfl, ⟨⟨found, named⟩, stated⟩, has⟩, has'⟩

theorem enumerates_fileNodes (root : Node) (file condition : String) :
    Enumerates (IsFileCheck root file condition) (fileNodes root file condition) := by
  refine (((((root.enumerates_childrenNamed _).childrenNamed _).filter _).childrenNamed _).filter _).congr
    fun place check => ?_
  simp only [decide_eq_true_eq]
  constructor
  · rintro ⟨⟨_, item, own, rfl, ⟨⟨_, group, inner, rfl, ⟨index, rfl, has⟩, has'⟩, included⟩, has''⟩, stated⟩
    exact .intro has has' included has'' stated
  · rintro ⟨has, has', included, has'', stated⟩
    exact ⟨⟨[_, _], _, _, rfl, ⟨⟨[_], _, _, rfl, ⟨_, rfl, has⟩, has'⟩, included⟩, has''⟩, stated⟩

/-! The values that are stated are those of the checks that the searches find. -/

section

variable {κ : Type} [DecidableEq κ]

def under {α : Type} (key : κ) (entries : List (κ × α)) : List α := (entries.filter (·.1 = key)).map (·.2)

theorem under_flatMap {α β : Type} (key : κ) (l : List α) (f : α → List (κ × β)) :
    under key (l.flatMap f) = l.flatMap fun x => under key (f x) := by
  rw [under, List.filter_flatMap, List.map_flatMap]
  rfl

theorem under_filterMap {α β : Type} (key : κ) (l : List α) (stated : α → Option κ) (f : α → β) :
    under key (l.filterMap fun x => (stated x).map fun own => (own, f x)) =
      (l.filter fun x => stated x = some key).map f := by
  induction l with
  | nil => rfl
  | cons x rest ih =>
    rw [List.filterMap_cons, List.filter_cons]
    cases own : stated x with
    | none => simpa using ih
    | some other =>
      rw [under] at ih ⊢
      by_cases same : other = key <;> simp [same, ih]

theorem under_map {α β : Type} (key own : κ) (l : List α) (f : α → β) :
    under key (l.map fun x => (own, f x)) = if own = key then l.map f else [] := by
  rw [under, List.filter_map, List.map_map]
  by_cases same : own = key <;> simp [same, Function.comp_def]

end

theorem under_checksOfGroup (group : Node) (condition : String) :
    under (Text.trim condition) (checksOfGroup group) =
      if group.States "Condition" Text.trim condition then
        ((group.childrenNamed "ClCompile").flatMap (·.childrenNamed "SDLCheck")).map valueOf
      else [] := by
  unfold checksOfGroup
  split
  next missing => simp [Node.States, missing, under]
  next stated found =>
    rw [under_map]
    simp only [Node.States, found, Option.map_some, Option.some.injEq]

theorem under_checksOfFile (item : Node) (file condition : String) :
    under (fileKey file, Text.trim condition) (checksOfFile item) =
      if item.States "Include" fileKey file then
        ((item.childrenNamed "SDLCheck").filter fun check => check.States "Condition" Text.trim condition).map valueOf
      else [] := by
  unfold checksOfFile
  split
  next missing => simp [Node.States, missing, under]
  next included found =>
    have keyed := under_filterMap (fileKey file, Text.trim condition) (item.childrenNamed "SDLCheck")
      (fun check => (check.attribute? "Condition").map fun stated => (fileKey included, Text.trim stated)) valueOf
    simp only [Option.map_map, Function.comp_def] at keyed
    rw [keyed]
    simp only [Node.States, found, Option.map_some, Option.some.injEq]
    by_cases same : fileKey included = fileKey file
    · simp [same]
    · simp [same]

theorem flatMap_if {α β : Type} (l : List α) (keep : α → Prop) [DecidablePred keep] (f : α → List β) :
    (l.flatMap fun x => if keep x then f x else []) = (l.filter fun x => keep x).flatMap f := by
  induction l with
  | nil => rfl
  | cons x rest ih => by_cases kept : keep x <;> simp [kept, ih]

theorem projectCheck?_eq (root : Node) (condition : String) :
    (ofRoot root).projectCheck? condition = single? ((projectNodes root condition).map valueOf) := by
  refine congrArg single? ?_
  refine (under_flatMap (Text.trim condition) _ checksOfGroup).trans ?_
  rw [funext fun group => under_checksOfGroup group condition, flatMap_if, projectNodes, List.flatMap_assoc,
    List.map_flatMap]

theorem fileCheck?_eq (root : Node) (file condition : String) :
    (ofRoot root).fileCheck? file condition = single? ((fileNodes root file condition).map valueOf) := by
  refine congrArg single? ?_
  refine (under_flatMap (fileKey file, Text.trim condition) _ checksOfFile).trans ?_
  rw [funext fun item => under_checksOfFile item file condition, flatMap_if, fileNodes]
  generalize List.filter _ _ = items
  rw [List.filter_flatMap, List.map_flatMap]

theorem single?_eq_some_iff {values : List String} {value : Bool} :
    single? values = some value ↔ ∃ text, values = [text] ∧ decide (text = "true") = value := by
  unfold single?
  split
  next text => simp
  next other => exact iff_of_false (by simp) fun given => other _ given.choose_spec.1

theorem single?_eq_of_perm {values others : List String} (perm : values.Perm others) :
    single? values = single? others := by
  refine Option.ext fun value => ?_
  rw [single?_eq_some_iff, single?_eq_some_iff]
  refine exists_congr fun text => and_congr_left fun _ => ⟨fun only => ?_, fun only => ?_⟩
  · exact List.perm_singleton.mp (only ▸ perm.symm)
  · exact List.perm_singleton.mp (only ▸ perm)

/-- Whether there is one place that `holds` tells of, and the check there says `value`. -/
def Settles (holds : List Nat → Node → Prop) (value : Bool) : Prop :=
  ∃ place check, holds place check ∧ (∀ other node, holds other node → other = place) ∧
    decide (Text.trim check.leadingText = "true") = value

theorem single?_valueOf_iff {holds : List Nat → Node → Prop} {nodes : List Node} (listed : Enumerates holds nodes)
    {value : Bool} : single? (nodes.map valueOf) = some value ↔ Settles holds value := by
  rw [single?_eq_some_iff]
  constructor
  · rintro ⟨text, single, rfl⟩
    obtain ⟨check, only, rfl⟩ := List.map_eq_singleton_iff.mp single
    obtain ⟨place, held, alone⟩ := listed.eq_singleton_iff.mp only
    exact ⟨place, check, held, alone, rfl⟩
  · rintro ⟨place, check, held, alone, rfl⟩
    exact ⟨valueOf check, by rw [listed.eq_singleton_iff.mpr ⟨place, held, alone⟩]; rfl, rfl⟩

end ProjectDocument

/-! Siblings in another order. -/

namespace Xml

/-- Whether two trees differ in the order of the children of one element. A check starts with its text in both. -/
inductive Reorders : Node → Node → Prop
  | here {name : String} {attributes : List Attribute} {children others : List Node} (perm : children.Perm others)
      (text : name = "SDLCheck" →
        (Node.element name attributes children).leadingText = (Node.element name attributes others).leadingText) :
      Reorders (.element name attributes children) (.element name attributes others)
  | within {name : String} {attributes : List Attribute} {before after : List Node} {child other : Node}
      (inner : Reorders child other) :
      Reorders (.element name attributes (before ++ child :: after))
        (.element name attributes (before ++ other :: after))

namespace Reorders

variable {node other : Node}

theorem name?_eq (reorders : Reorders node other) : other.name? = node.name? := by
  cases reorders <;> rfl

theorem attribute?_eq (reorders : Reorders node other) (name : String) :
    other.attribute? name = node.attribute? name := by
  cases reorders <;> rfl

theorem states_iff (reorders : Reorders node other) {name value : String} {read : String → String} :
    node.States name read value ↔ other.States name read value := by
  rw [Node.States, Node.States, reorders.attribute?_eq]

theorem leadingText_eq (reorders : Reorders node other) (check : node.name? = some "SDLCheck") :
    other.leadingText = node.leadingText := by
  cases reorders with
  | here perm text => exact (text (Option.some.inj check)).symm
  | @within _ _ before _ _ _ inner =>
    cases before with
    | nil => cases inner <;> rfl
    | cons first before => cases first <;> rfl

variable {β : Type} {f : Node → List β}

theorem perm_if {p q : Prop} [Decidable p] [Decidable q] {l others : List β} (same : p ↔ q)
    (kept : p → l.Perm others) : (if p then l else []).Perm (if q then others else []) := by
  by_cases holds : p
  · rw [if_pos holds, if_pos (same.mp holds)]
    exact kept holds
  · rw [if_neg holds, if_neg (same.not.mp holds)]

theorem perm_children (kept : ∀ {node other}, Reorders node other → (f node).Perm (f other))
    (reorders : Reorders node other) : (node.children.flatMap f).Perm (other.children.flatMap f) := by
  cases reorders with
  | here perm => exact perm.flatMap_right f
  | @within _ _ before after child other inner =>
    simp only [Node.children, List.flatMap_append, List.flatMap_cons]
    exact ((kept inner).append_right _).append_left _

theorem perm_childrenNamed {name : String}
    (kept : ∀ {node other}, Reorders node other → node.name? = some name → (f node).Perm (f other))
    (reorders : Reorders node other) :
    ((node.childrenNamed name).flatMap f).Perm ((other.childrenNamed name).flatMap f) := by
  unfold Node.childrenNamed
  rw [← ProjectDocument.flatMap_if, ← ProjectDocument.flatMap_if]
  refine reorders.perm_children fun {child other} inner => perm_if (by rw [inner.name?_eq]) fun named => ?_
  exact kept inner named

theorem perm_descendants (kept : ∀ {node other}, Reorders node other → (f node).Perm (f other))
    (reorders : Reorders node other) : (node.descendants.flatMap f).Perm (other.descendants.flatMap f) := by
  induction reorders with
  | @here name attributes children others perm text =>
    rw [Node.descendants_eq, Node.descendants_eq, List.flatMap_cons, List.flatMap_cons]
    exact (kept (.here perm text)).append ((perm.flatMap_right _).flatMap_right _)
  | @within name attributes before after child other inner ih =>
    rw [Node.descendants_eq, Node.descendants_eq, List.flatMap_cons, List.flatMap_cons]
    refine (kept (.within inner)).append ?_
    simp only [Node.children, List.flatMap_append, List.flatMap_cons]
    exact (ih.append_right _).append_left _

end Reorders

end Xml

namespace ProjectDocument

open Xml

variable {root other : Node}

theorem map_projectNodes (root : Node) (condition : String) : (projectNodes root condition).map valueOf =
    root.descendants.flatMap fun group =>
      if group.name? = some "ItemDefinitionGroup" then
        if group.States "Condition" Text.trim condition then
          (group.childrenNamed "ClCompile").flatMap fun settings =>
            (settings.childrenNamed "SDLCheck").flatMap fun check => [valueOf check]
        else []
      else [] := by
  rw [flatMap_if, flatMap_if, projectNodes, List.map_eq_flatMap]
  simp only [List.flatMap_assoc]

theorem map_fileNodes (root : Node) (file condition : String) : (fileNodes root file condition).map valueOf =
    (root.childrenNamed "ItemGroup").flatMap fun group => (group.childrenNamed "ClCompile").flatMap fun item =>
      if item.States "Include" fileKey file then
        (item.childrenNamed "SDLCheck").flatMap fun check =>
          if check.States "Condition" Text.trim condition then [valueOf check] else []
      else [] := by
  rw [fileNodes, List.map_eq_flatMap, ← flatMap_if, List.flatMap_assoc, ← flatMap_if, List.flatMap_assoc]

theorem perm_projectNodes (reorders : Reorders root other) (condition : String) :
    ((projectNodes root condition).map valueOf).Perm ((projectNodes other condition).map valueOf) := by
  rw [map_projectNodes, map_projectNodes]
  refine reorders.perm_descendants fun {group group'} inGroup => ?_
  refine Reorders.perm_if (by rw [inGroup.name?_eq]) fun _ => Reorders.perm_if inGroup.states_iff fun _ => ?_
  refine inGroup.perm_childrenNamed fun {settings settings'} inSettings _ => ?_
  refine inSettings.perm_childrenNamed fun {check check'} inCheck named => ?_
  rw [valueOf, valueOf, inCheck.leadingText_eq named]

theorem perm_fileNodes (reorders : Reorders root other) (file condition : String) :
    ((fileNodes root file condition).map valueOf).Perm ((fileNodes other file condition).map valueOf) := by
  rw [map_fileNodes, map_fileNodes]
  refine reorders.perm_childrenNamed fun {group group'} inGroup _ => ?_
  refine inGroup.perm_childrenNamed fun {item item'} inItem _ => Reorders.perm_if inItem.states_iff fun _ => ?_
  refine inItem.perm_childrenNamed fun {check check'} inCheck named => Reorders.perm_if inCheck.states_iff fun _ => ?_
  rw [valueOf, valueOf, inCheck.leadingText_eq named]

/-- A check is settled by the one element that a search of the tree finds for it, if there is just one. The order of
siblings has no part in that, but for the text that a check starts with. -/
theorem checks_are_found_by_search {root : Node} (project : root.name? = some "Project") :
    (∀ text, Xml.read? text = some root → read text = .ok (ofRoot root)) ∧
    (∀ condition value, (ofRoot root).projectCheck? condition = some value ↔
      Settles (IsProjectCheck root condition) value) ∧
    (∀ file condition value, (ofRoot root).fileCheck? file condition = some value ↔
      Settles (IsFileCheck root file condition) value) ∧
    ∀ other, Relation.ReflTransGen Reorders root other →
      (∀ condition, (ofRoot other).projectCheck? condition = (ofRoot root).projectCheck? condition) ∧
      ∀ file condition, (ofRoot other).fileCheck? file condition = (ofRoot root).fileCheck? file condition := by
  refine ⟨fun text found => ?_, fun condition value => ?_, fun file condition value => ?_, fun other reordered => ?_⟩
  · simp only [read, found, project]
  · rw [projectCheck?_eq, single?_valueOf_iff (enumerates_projectNodes root condition)]
  · rw [fileCheck?_eq, single?_valueOf_iff (enumerates_fileNodes root file condition)]
  · induction reordered with
    | refl => exact ⟨fun _ => rfl, fun _ _ => rfl⟩
    | @tail middle other _ step ih =>
      refine ⟨fun condition => ?_, fun file condition => ?_⟩
      · rw [← ih.1, projectCheck?_eq, projectCheck?_eq, single?_eq_of_perm (perm_projectNodes step condition)]
      · rw [← ih.2, fileCheck?_eq, fileCheck?_eq, single?_eq_of_perm (perm_fileNodes step file condition)]

end ProjectDocument

namespace Sample

open Xml

def conditioned (condition : String) : List Attribute := [⟨none, "Condition", condition⟩]

def check (attributes : List Attribute) (content : List Node) : Node := .element "SDLCheck" attributes content

def checkedProject : Node :=
  .element "Project" [] [
    .element "When" [] [
      .element "ItemDefinitionGroup" (conditioned " Debug ") [
        .element "ClCompile" [] [.remark, check [] [.text " true "]]]],
    .element "ItemGroup" [] [
      .element "ClCompile" [⟨none, "Include", "src\\Main.cpp"⟩] [check (conditioned "Debug") [.text "false"]]]]

def notedProject (content : List Node) : Node :=
  .element "Project" [] [
    .element "ItemDefinitionGroup" (conditioned "Debug") [.element "ClCompile" [] [check [] content]]]

end Sample

namespace ProjectDocument

open Xml Sample

theorem nested_check_is_found :
    checkedProject.name? = some "Project" ∧
      Settles (IsProjectCheck checkedProject "Debug") true ∧
      Settles (IsFileCheck checkedProject "SRC/main.cpp" "Debug") false := by
  have project : checkedProject.name? = some "Project" := rfl
  have checks : ofRoot checkedProject = ⟨[("Debug", "true")], [(("src/main.cpp", "Debug"), "false")]⟩ := by
    decide +kernel
  have own : (ofRoot checkedProject).projectCheck? "Debug" = some true := by
    rw [checks]
    decide +kernel
  have main : (ofRoot checkedProject).fileCheck? "SRC/main.cpp" "Debug" = some false := by
    rw [checks]
    decide +kernel
  obtain ⟨-, projects, files, -⟩ := checks_are_found_by_search project
  exact ⟨project, (projects "Debug" true).mp own, (files "SRC/main.cpp" "Debug" false).mp main⟩

/-- A check with a remark before its text is read as if it had no text, though not with the remark behind it. -/
theorem remark_before_text_hides_value :
    [Node.text "true", .remark].Perm [.remark, .text "true"] ∧
      (ofRoot (notedProject [.text "true", .remark])).projectCheck? "Debug" = some true ∧
      (ofRoot (notedProject [.remark, .text "true"])).projectCheck? "Debug" = some false := by
  have before : ofRoot (notedProject [.text "true", .remark]) = ⟨[("Debug", "true")], []⟩ := by decide +kernel
  have behind : ofRoot (notedProject [.remark, .text "true"]) = ⟨[("Debug", "")], []⟩ := by decide +kernel
  rw [before, behind]
  refine ⟨.swap _ _ _, ?_, ?_⟩
  all_goals decide +kernel

example : (read ("<Project><ItemDefinitionGroup Condition=\"Debug\"><ClCompile><SDLCheck><!-- set -->true</SDLCheck>" ++
    "</ClCompile></ItemDefinitionGroup></Project>")).toOption.bind (·.projectCheck? "Debug") = some false := by
  decide +kernel

end ProjectDocument

end Listfile
