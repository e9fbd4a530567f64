import Listfile.Error
import Listfile.Text.Quoted

/-!
What a run tells its user on the way, and computations that keep such notices whether they fail or not.
-/

namespace Listfile

inductive Level where
  | info
  | warn
  | error
  deriving DecidableEq, Repr

structure Record where
  level : Level
  message : String
  deriving DecidableEq, Repr

inductive Notice where
  | foreignProject (project : String)
  | replacedConfiguration (configuration project solutionConfiguration : String)
  | converting (target : String)
  | dependsOnEnvironment (target variableName : String)
  | failed (error : ConversionError)
  | outsideSolution (target : String)
  | generated (path : String)
  deriving DecidableEq, Repr

def Notice.record : Notice → Record
  | foreignProject project => ⟨.warn, s!"Project '{project}' is not a Visual C++ project"⟩
  | replacedConfiguration configuration project solutionConfiguration =>
    ⟨.warn, s!"Configuration '{configuration}' of '{project}' does not match the solution configuration. " ++
      s!"It is replaced by '{solutionConfiguration}'"⟩
  | converting target => ⟨.info, s!"Converting '{target}'"⟩
  | dependsOnEnvironment target variableName =>
    ⟨.warn, s!"'{target}' depends on the environment variable '{variableName}'"⟩
  | failed error => ⟨.error, error.message⟩
  | outsideSolution target =>
    ⟨.warn, s!"'{target}' lives outside of the solution directory. " ++
      s!"Its descriptor is written to '{target}'"⟩
  | generated path => ⟨.info, "Generated " ++ Text.quoted path⟩

/-- A result, or the error that stopped it, with the notices recorded up to there. -/
structure Logged (α : Type) where
  result : Except ConversionError α
  log : List Notice
  deriving Repr

namespace Logged

variable {α β : Type}

def bind (first : Logged α) (next : α → Logged β) : Logged β :=
  match first.result with
  | .error error => ⟨.error error, first.log⟩
  | .ok value => ⟨(next value).result, first.log ++ (next value).log⟩

instance : Monad Logged where
  pure value := ⟨.ok value, []⟩
  bind := bind

def note (notice : Notice) : Logged Unit := ⟨.ok (), [notice]⟩

def fail (error : ConversionError) : Logged α := ⟨.error error, []⟩

def lift (result : Except ConversionError α) : Logged α := ⟨result, []⟩

@[simp] theorem result_pure (value : α) : (pure value : Logged α).result = .ok value := rfl

@[simp] theorem log_pure (value : α) : (pure value : Logged α).log = [] := rfl

@[simp] theorem result_note (notice : Notice) : (note notice).result = .ok () := rfl

@[simp] theorem result_fail (error : ConversionError) : (fail error : Logged α).result = .error error :=
  rfl

@[simp] theorem result_lift (result : Except ConversionError α) : (lift result).result = result := rfl

@[simp] theorem result_bind (first : Logged α) (next : α → Logged β) :
    (first >>= next).result = first.result.bind fun value => (next value).result := by
  show (bind first next).result = _
  unfold bind
  cases first.result <;> rfl

@[simp] theorem result_map (f : α → β) (first : Logged α) :
    (f <$> first).result = first.result.map f := by
  show (bind first fun value => ⟨.ok (f value), []⟩).result = _
  unfold bind
  cases first.result <;> rfl

/-- What follows an error is not recorded. -/
theorem log_bind (first : Logged α) (next : α → Logged β) :
    (first >>= next).log = first.log ++
      match first.result with
      | .error _ => []
      | .ok value => (next value).log := by
  show (bind first next).log = _
  unfold bind
  cases first.result <;> simp

@[ext] theorem ext {first second : Logged α} (result : first.result = second.result)
    (log : first.log = second.log) : first = second := by
  cases first
  cases second
  simp_all

theorem id_map (first : Logged α) : id <$> first = first := by
  apply ext
  · show (first >>= fun value => pure value).result = _
    simp only [result_bind, result_pure]
    cases first.result <;> rfl
  · show (first >>= fun value => pure value).log = _
    rw [log_bind]
    cases first.result <;> simp

theorem pure_bind (value : α) (next : α → Logged β) : pure value >>= next = next value := by
  apply ext
  · simp only [result_bind, result_pure, Except.bind]
  · simp only [log_bind, result_pure, log_pure, List.nil_append]

theorem bind_assoc (first : Logged α) (second : α → Logged β) {γ : Type} (third : β → Logged γ) :
    first >>= second >>= third = first >>= fun value => second value >>= third := by
  apply ext
  · simp only [result_bind]
    cases first.result <;> rfl
  · simp only [log_bind, result_bind]
    cases first.result with
    | error error => simp [Except.bind]
    | ok value => simp [Except.bind]

instance : LawfulMonad Logged :=
  LawfulMonad.mk' Logged id_map pure_bind fun first second third => bind_assoc first second third

end Logged

end Listfile
