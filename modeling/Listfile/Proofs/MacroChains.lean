import Listfile.Proofs.OpenMacros

/-!
Macros whose values refer to macros again. Where no chain of references has ten names, a text is evaluated as if there
were no limit: every macro stands for its value with all references in it replaced. Of a chain that has, the last
reference is left.
-/

namespace Listfile

namespace Macro

variable {text : String}

theorem expand_of_names_eq_nil (value : String → String) (none : names text = []) : expand value text = text := by
  have same : expand value text = expand reference text :=
    expand_congr fun name refers => absurd refers (none ▸ List.not_mem_nil)
  rw [same, expand_eq_self]

end Macro

namespace Snapshot

open Macro

/-- Names of which the text refers to the first, and the value of each to the next. -/
inductive Chain (value : String → String) : String → List String → Prop
  | nil {text : String} : Chain value text []
  | cons {text name : String} {rest : List String} (refers : name ∈ names text)
      (onward : Chain value (value name) rest) : Chain value text (name :: rest)

inductive Reaches (value : String → String) (text : String) : String → Prop
  | refers {name : String} (refers : name ∈ names text) : Reaches value text name
  | through {name other : String} (reached : Reaches value text name) (refers : other ∈ names (value name)) :
      Reaches value text other

/-- Each name that is reached means its value with all names in it replaced by what they mean. -/
def Solves (value meaning : String → String) (text : String) : Prop :=
  ∀ name, Reaches value text name → meaning name = expand meaning (value name)

def ChainsWithin (value : String → String) : Nat → String → Prop
  | 0, text => names text = []
  | length + 1, text => ∀ name ∈ names text, ChainsWithin value length (value name)

instance decidableChainsWithin (value : String → String) : (length : Nat) → (text : String) →
    Decidable (ChainsWithin value length text)
  | 0, text => inferInstanceAs (Decidable (names text = []))
  | length + 1, text =>
    have (name : String) : Decidable (ChainsWithin value length (value name)) := decidableChainsWithin value length _
    inferInstanceAs (Decidable (∀ name ∈ names text, ChainsWithin value length (value name)))

variable {value : String → String} {length : Nat} {text name : String}

theorem chainsWithin_iff :
    ChainsWithin value length text ↔ ∀ chain, Chain value text chain → chain.length ≠ length + 1 := by
  -- A chain goes on from the value of its first name, so the text is generalized.
  induction length generalizing text with
  | zero =>
    constructor
    · intro none chain linked
      cases linked with
      | nil => exact Nat.zero_ne_one
      | cons refers => exact absurd refers (none ▸ List.not_mem_nil)
    · intro short
      apply List.eq_nil_iff_forall_not_mem.mpr
      intro name refers
      exact short [name] (.cons refers .nil) rfl
  | succ length ih =>
    constructor
    · intro within chain linked
      cases linked with
      | nil => exact Nat.zero_ne_add_one _
      | cons refers onward =>
        have rest := ih.mp (within _ refers) _ onward
        rw [List.length_cons]
        omega
    · intro short name refers
      apply ih.mpr
      intro chain onward size
      exact short (name :: chain) (.cons refers onward) (congrArg (· + 1) size)

theorem ChainsWithin.succ (within : ChainsWithin value length text) : ChainsWithin value (length + 1) text := by
  induction length generalizing text with
  | zero =>
    intro name refers
    exact absurd refers (within ▸ List.not_mem_nil)
  | succ length ih => exact fun name refers => ih (within name refers)

theorem ChainsWithin.of_reaches (within : ChainsWithin value (length + 1) text) (reached : Reaches value text name) :
    ChainsWithin value length (value name) := by
  induction reached with
  | refers refers => exact within _ refers
  | through _ refers ih =>
    cases length with
    | zero => exact absurd refers (ih ▸ List.not_mem_nil)
    | succ length => exact (ih _ refers).succ

/-! Following the references as far as chains go. -/

theorem expandName_eq_expand (within : ChainsWithin value length (value name)) :
    expandName value length name = expand (expandName value length) (value name) := by
  induction length generalizing name with
  | zero => exact (expand_of_names_eq_nil _ within).symm
  | succ length ih => exact expand_congr fun other refers => ih (within other refers)

theorem expandName_eq_of_solves {meaning : String → String} (within : ChainsWithin value length (value name))
    (solves : Solves value meaning text) (reached : Reaches value text name) :
    expandName value length name = meaning name := by
  induction length generalizing name with
  | zero =>
    calc
      expandName value 0 name = value name := rfl
      _ = expand meaning (value name) := (expand_of_names_eq_nil meaning within).symm
      _ = meaning name := (solves name reached).symm
  | succ length ih =>
    have inner : ∀ other ∈ names (value name), expandName value length other = meaning other :=
      fun other refers => ih (within other refers) (.through reached refers)
    calc
      expandName value (length + 1) name = expand (expandName value length) (value name) := rfl
      _ = expand meaning (value name) := expand_congr inner
      _ = meaning name := (solves name reached).symm

theorem infix_expand_of_chain {chain : List String} {last : String} (linked : Chain value text (chain ++ [last]))
    (size : chain.length = length + 1) :
    (reference last).toList <:+: (expand (expandName value length) text).toList := by
  induction length generalizing text chain with
  | zero =>
    obtain ⟨first, rfl⟩ := List.length_eq_one_iff.mp size
    cases linked with
    | cons refers onward =>
      cases onward with
      | cons ends =>
        have outer : (value first).toList <:+: (expand (expandName value 0) text).toList := infix_expand refers
        exact (mem_names_iff.mp ends).2.trans outer
  | succ length ih =>
    cases chain with
    | nil => exact absurd size (Nat.zero_ne_add_one _)
    | cons first rest =>
      cases linked with
      | cons refers onward =>
        have inner := ih onward (Nat.succ.inj size)
        have outer : (expandName value (length + 1) first).toList <:+:
            (expand (expandName value (length + 1)) text).toList := infix_expand refers
        exact inner.trans outer

/-- Where no chain has ten names, a text is evaluated by what the names that it reaches mean: each its value with the
names in it replaced by what they mean, which determines them. Of a chain with ten names, the last one is not
replaced. -/
theorem chains_of_nine_names_are_followed (snapshot : Snapshot) (project : String)
    (configuration : ProjectConfiguration) (text : String) :
    ((∀ chain, Chain (snapshot.macroValue project configuration) text chain → chain.length ≠ 10) →
      ∃ meaning, Solves (snapshot.macroValue project configuration) meaning text ∧
        snapshot.evaluate project configuration text = expand meaning text ∧
        ∀ other, Solves (snapshot.macroValue project configuration) other text →
          ∀ name, Reaches (snapshot.macroValue project configuration) text name → other name = meaning name) ∧
    ∀ chain last, Chain (snapshot.macroValue project configuration) text (chain ++ [last]) → chain.length = 9 →
      (reference last).toList <:+: (snapshot.evaluate project configuration text).toList := by
  constructor
  · intro short
    have within : ChainsWithin (snapshot.macroValue project configuration) (depthLimit + 1) text :=
      chainsWithin_iff.mpr short
    refine ⟨expandName (snapshot.macroValue project configuration) depthLimit, ?_, rfl, ?_⟩
    · intro name reached
      exact expandName_eq_expand (within.of_reaches reached)
    · intro other solves name reached
      exact (expandName_eq_of_solves (within.of_reaches reached) solves reached).symm
  · intro chain last linked size
    exact infix_expand_of_chain linked size

end Snapshot

namespace Sample

/-- A chain of nine names, from the directory for outputs to the environment, and two that refer to each other. -/
def chainedConfiguration : ProjectConfiguration where
  name := "Debug"
  platform := "x64"
  macros := [
    ("OutDir", "$(BinDir)$(Configuration)/"), ("BinDir", "$(BuildDir)bin/"), ("BuildDir", "$(Root)build/"),
    ("Root", "$(Tree)"), ("Tree", "$(Disk)$(Folder)"), ("Folder", "$(Branch)/"), ("Branch", "$(Version)"),
    ("Version", "$(BRANCH)"), ("Disk", "C:/"), ("This", "$(That)"), ("That", "$(This)")]

def chainedSnapshot : Snapshot where
  solution := { name := "solution", directory := "C:\\solution" }
  environment := [("BRANCH", "trunk")]
  projects := []

end Sample

namespace Snapshot

open Macro Sample

theorem nine_chained_names_are_followed :
    (∀ chain, Chain (chainedSnapshot.macroValue "app" chainedConfiguration) "$(OutDir)app.exe" chain →
      chain.length ≠ 10) ∧
    ∃ meaning, Solves (chainedSnapshot.macroValue "app" chainedConfiguration) meaning "$(OutDir)app.exe" ∧
      chainedSnapshot.evaluate "app" chainedConfiguration "$(OutDir)app.exe" = expand meaning "$(OutDir)app.exe" ∧
      ∀ other, Solves (chainedSnapshot.macroValue "app" chainedConfiguration) other "$(OutDir)app.exe" →
        ∀ name, Reaches (chainedSnapshot.macroValue "app" chainedConfiguration) "$(OutDir)app.exe" name →
          other name = meaning name := by
  have within : ChainsWithin (chainedSnapshot.macroValue "app" chainedConfiguration) 9 "$(OutDir)app.exe" := by
    decide +kernel
  have short := chainsWithin_iff.mp within
  exact ⟨short, (chains_of_nine_names_are_followed _ _ _ _).1 short⟩

example : chainedSnapshot.evaluate "app" chainedConfiguration "$(OutDir)app.exe" =
    "C:/trunk/build/bin/Debug/app.exe" := by
  decide +kernel

end Snapshot

end Listfile
