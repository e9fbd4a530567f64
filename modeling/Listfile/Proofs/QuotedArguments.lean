import Listfile.Proofs.BalancedDescriptors
import Listfile.Proofs.PrecompiledHeaders

/-!
How the quoted arguments of a command are read, and when reading gives back the definitions of a target: exactly if
none of them holds a backslash, since only double quotes are escaped where they are written.
-/

namespace Listfile

namespace Scan

/-! Reading. -/

def readAhead (c : Char) (read : List Char × List Char) : List Char × List Char := (c :: read.1, read.2)

/-- What a quoted argument stands for, from behind its opening quote, and what follows it. A backslash takes the next
character as it is. -/
def quoted? : List Char → Option (List Char × List Char)
  | [] => none
  | '\x22' :: rest => some ([], rest)
  | ['\\'] => none
  | '\\' :: taken :: rest => (quoted? rest).map (readAhead taken)
  | c :: rest => (quoted? rest).map (readAhead c)

theorem quoted?_quote (rest : List Char) : quoted? ('\x22' :: rest) = some ([], rest) := by rw [quoted?]

theorem quoted?_backslash (taken : Char) (rest : List Char) :
    quoted? ('\\' :: taken :: rest) = (quoted? rest).map (readAhead taken) := by rw [quoted?]

theorem quoted?_other {c : Char} (quote : c ≠ '\x22') (backslash : c ≠ '\\') (rest : List Char) :
    quoted? (c :: rest) = (quoted? rest).map (readAhead c) := by
  rw [quoted?]
  · exact fun same => quote same
  · exact fun same _ => backslash same
  · exact fun taken behind same _ => backslash same

theorem map_readAhead_eq_some_iff {c : Char} {value rest : List Char} {read : Option (List Char × List Char)} :
    read.map (readAhead c) = some (value, rest) ↔ ∃ own, read = some (own, rest) ∧ c :: own = value := by
  cases read <;> simp [readAhead, Prod.ext_iff, and_comm]

theorem quoted?_shorter {cs value rest : List Char} (read : quoted? cs = some (value, rest)) :
    rest.length < cs.length := by
  fun_induction quoted? cs generalizing value with
  | case1 => simp at read
  | case2 => simp_all
  | case3 => simp at read
  | case4 taken behind ih =>
    obtain ⟨own, found, -⟩ := map_readAhead_eq_some_iff.mp read
    exact (ih found).trans (Nat.lt_add_of_pos_right (Nat.succ_pos 1))
  | case5 c behind quote backslash other ih =>
    obtain ⟨own, found, -⟩ := map_readAhead_eq_some_iff.mp read
    exact (ih found).trans (by simp)

/-- The quoted arguments up to the parenthesis that closes the command. -/
def quotedArguments? : List Char → Option (List (List Char))
  | [] => none
  | c :: rest =>
    if c = ')' then some []
    else if c = '\x22' then
      match read : quoted? rest with
      | some (value, behind) =>
        have : behind.length < rest.length := quoted?_shorter read
        (quotedArguments? behind).map (value :: ·)
      | none => none
    else quotedArguments? rest
termination_by cs => cs.length

theorem quotedArguments?_close (rest : List Char) : quotedArguments? (')' :: rest) = some [] := by
  rw [quotedArguments?, if_pos rfl]

theorem quotedArguments?_quote (rest : List Char) : quotedArguments? ('\x22' :: rest) =
    (quoted? rest).bind fun read => (quotedArguments? read.2).map (read.1 :: ·) := by
  rw [quotedArguments?, if_neg (by decide), if_pos rfl]
  split
  next value behind read => simp [read]
  next none => simp [none]

theorem quotedArguments?_other {c : Char} (quote : c ≠ '\x22') (close : c ≠ ')') (rest : List Char) :
    quotedArguments? (c :: rest) = quotedArguments? rest := by rw [quotedArguments?, if_neg close, if_neg quote]

theorem quotedArguments?_append {front : List Char} (outside : ∀ c ∈ front, c ≠ '\x22' ∧ c ≠ ')') (rest : List Char) :
    quotedArguments? (front ++ rest) = quotedArguments? rest := by
  induction front with
  | nil => rfl
  | cons c cs ih =>
    rw [List.forall_mem_cons] at outside
    rw [List.cons_append, quotedArguments?_other outside.1.1 outside.1.2, ih outside.2]

def argumentsOf? (command text : String) : Option (List String) :=
  ((Text.after? (command ++ "(").toList text.toList).bind quotedArguments?).map (·.map String.ofList)

/-! Reading what has been escaped. -/

def escape (cs : List Char) : List Char := cs.flatMap fun c => if c = '\x22' then ['\\', '\x22'] else [c]

theorem toList_escapeQuotes (text : String) : (Text.escapeQuotes text).toList = escape text.toList :=
  String.toList_ofList

theorem escape_quote (cs : List Char) : escape ('\x22' :: cs) = '\\' :: '\x22' :: escape cs := rfl

theorem escape_other {c : Char} (other : c ≠ '\x22') (cs : List Char) : escape (c :: cs) = c :: escape cs := by
  rw [escape, List.flatMap_cons, if_neg other]
  rfl

theorem escape_of_notMem {cs : List Char} (quote : '\x22' ∉ cs) : escape cs = cs := by
  induction cs with
  | nil => rfl
  | cons c rest ih =>
    obtain ⟨other, others⟩ := not_or.mp (List.mem_cons.not.mp quote)
    rw [escape_other (Ne.symm other), ih others]

theorem quoted?_escape {cs : List Char} (backslash : '\\' ∉ cs) (rest : List Char) :
    quoted? (escape cs ++ rest) = (quoted? rest).map fun read => (cs ++ read.1, read.2) := by
  induction cs with
  | nil =>
    show quoted? rest = (quoted? rest).map id
    rw [Option.map_id_fun, id]
  | cons c cs ih =>
    obtain ⟨other, others⟩ := not_or.mp (List.mem_cons.not.mp backslash)
    have ahead : (quoted? (escape cs ++ rest)).map (readAhead c) =
        (quoted? rest).map fun read => (c :: cs ++ read.1, read.2) := by
      rw [ih others, Option.map_map]
      rfl
    by_cases quote : c = '\x22'
    · rw [quote] at ahead ⊢
      rw [escape_quote, List.cons_append, List.cons_append, quoted?_backslash, ahead]
    · rw [escape_other quote, List.cons_append, quoted?_other quote (Ne.symm other), ahead]

/-- Every backslash costs a character. -/
theorem length_of_quoted?_escape {cs value rest behind : List Char}
    (read : quoted? (escape cs ++ '>' :: '\x22' :: rest) = some (value, behind)) :
    value.length ≤ cs.length + 1 ∧ ('\\' ∈ cs → value.length ≤ cs.length) := by
  have close {own : List Char} (found : quoted? ('\x22' :: rest) = some (own, behind)) : own = [] := by
    rw [quoted?_quote] at found
    simp_all
  -- A backslash takes the character behind it along, so the induction is on the length.
  induction size : cs.length using Nat.strong_induction_on generalizing cs value with | _ n ih
  subst size
  cases cs with
  | nil =>
    have other : quoted? ('>' :: '\x22' :: rest) = _ := quoted?_other (by decide) (by decide) _
    rw [escape, List.flatMap_nil, List.nil_append, other] at read
    obtain ⟨own, found, rfl⟩ := map_readAhead_eq_some_iff.mp read
    simp [close found]
  | cons c cs =>
    by_cases quote : c = '\x22'
    · subst quote
      rw [escape_quote, List.cons_append, List.cons_append, quoted?_backslash] at read
      obtain ⟨own, found, rfl⟩ := map_readAhead_eq_some_iff.mp read
      simpa using ih cs.length (Nat.lt_succ_self _) found rfl
    rw [escape_other quote, List.cons_append] at read
    by_cases backslash : c = '\\'
    · subst backslash
      suffices short : value.length ≤ cs.length + 1 from ⟨short.trans (by simp), fun _ => by simpa using short⟩
      cases cs with
      | nil =>
        rw [escape, List.flatMap_nil, List.nil_append, quoted?_backslash] at read
        obtain ⟨own, found, rfl⟩ := map_readAhead_eq_some_iff.mp read
        simp [close found]
      | cons d cs =>
        by_cases quote : d = '\x22'
        · -- The backslash before the quote is taken, and the quote is left to close the argument.
          subst quote
          rw [escape_quote, List.cons_append, quoted?_backslash, List.cons_append, quoted?_quote] at read
          obtain ⟨own, found, rfl⟩ := map_readAhead_eq_some_iff.mp read
          simp_all
        · rw [escape_other quote, List.cons_append, quoted?_backslash] at read
          obtain ⟨own, found, rfl⟩ := map_readAhead_eq_some_iff.mp read
          have inner := (ih cs.length (by simp only [List.length_cons]; omega) found rfl).1
          simp only [List.length_cons]
          omega
    · rw [quoted?_other quote backslash] at read
      obtain ⟨own, found, rfl⟩ := map_readAhead_eq_some_iff.mp read
      simpa [Ne.symm backslash] using ih cs.length (Nat.lt_succ_self _) found rfl

/-! Reading the expression of a configuration. -/

section

variable {configuration value : String}

def condition (configuration : String) : List Char := ("$<$<CONFIG:" ++ configuration ++ ">:").toList

theorem toList_configExpression (configuration value : String) :
    (configExpression configuration value).toList = condition configuration ++ (value.toList ++ ['>']) := by
  simp only [configExpression, condition, String.toList_append, List.append_assoc]
  rfl

theorem quoted?_condition (named : Text.Lacks ['\x22', '\\'] configuration) (cs : List Char) :
    quoted? (condition configuration ++ cs) =
      (quoted? cs).map fun read => (condition configuration ++ read.1, read.2) := by
  have plain : Text.Lacks ['\x22', '\\'] ("$<$<CONFIG:" ++ configuration ++ ">:") :=
    (Text.Lacks.append (by decide) named).append (by decide)
  have quote : '\x22' ∉ condition configuration := fun inside => plain _ inside (by decide)
  have backslash : '\\' ∉ condition configuration := fun inside => plain _ inside (by decide)
  rw [← quoted?_escape backslash, escape_of_notMem quote]

theorem quoted?_configExpression (named : Text.Lacks ['\x22', '\\'] configuration) (value : String) (rest : List Char) :
    quoted? ((configExpression configuration (Text.escapeQuotes value)).toList ++ '\x22' :: rest) =
      (quoted? (escape value.toList ++ '>' :: '\x22' :: rest)).map fun read =>
        (condition configuration ++ read.1, read.2) := by
  rw [toList_configExpression, toList_escapeQuotes, List.append_assoc, List.append_assoc, quoted?_condition named]
  rfl

theorem quoted?_configExpression_of_notMem (named : Text.Lacks ['\x22', '\\'] configuration)
    (backslash : '\\' ∉ value.toList) (rest : List Char) :
    quoted? ((configExpression configuration (Text.escapeQuotes value)).toList ++ '\x22' :: rest) =
      some ((configExpression configuration value).toList, rest) := by
  have close : quoted? ('>' :: '\x22' :: rest) = some (['>'], rest) := by
    rw [quoted?_other (by decide) (by decide), quoted?_quote]
    rfl
  rw [quoted?_configExpression named, quoted?_escape backslash, close, toList_configExpression]
  rfl

theorem notMem_of_quoted?_configExpression (named : Text.Lacks ['\x22', '\\'] configuration) {rest behind : List Char}
    (read : quoted? ((configExpression configuration (Text.escapeQuotes value)).toList ++ '\x22' :: rest) =
      some ((configExpression configuration value).toList, behind)) : '\\' ∉ value.toList := by
  intro inside
  rw [quoted?_configExpression named, Option.map_eq_some_iff] at read
  obtain ⟨⟨own, behind'⟩, found, same⟩ := read
  rw [toList_configExpression, Prod.mk.injEq] at same
  have whole : own = value.toList ++ ['>'] := List.append_cancel_left same.1
  have short := (length_of_quoted?_escape found).2 inside
  rw [whole, List.length_append] at short
  exact Nat.not_succ_le_self _ short

end

end Scan

/-! The definitions of a target in its descriptor. -/

namespace Descriptor

open Scan

def delimiters : List Char := ['\x22', '\\', '(', ')']

theorem mem_intercalate_iff {separator : String} {c : Char} (other : c ∉ separator.toList) {texts : List String} :
    c ∈ (separator.intercalate texts).toList ↔ ∃ text ∈ texts, c ∈ text.toList := by
  induction texts with
  | nil => simp
  | cons text rest ih =>
    cases rest with
    | nil => simp
    | cons second rest =>
      rw [String.intercalate_cons_cons, String.toList_append, String.toList_append, List.mem_append, List.mem_append,
        ih]
      simp [other]

def quotedLine (expression : String) : String := "  \"" ++ expression ++ "\"\n"

theorem quotedArguments?_quotedLine (expression : String) (rest : List Char) :
    quotedArguments? ((quotedLine expression).toList ++ rest) =
      (quoted? (expression.toList ++ '\x22' :: '\n' :: rest)).bind fun read =>
        (quotedArguments? read.2).map (read.1 :: ·) := by
  have shape : (quotedLine expression).toList ++ rest =
      [' ', ' '] ++ '\x22' :: (expression.toList ++ '\x22' :: '\n' :: rest) := by
    simp [quotedLine]
  rw [shape, quotedArguments?_append (by simp), quotedArguments?_quote]

theorem quotedArguments?_lines_iff {pairs : List (String × String)}
    (named : ∀ pair ∈ pairs, Text.Lacks ['\x22', '\\'] pair.1) (rest : List Char) :
    quotedArguments? ((String.join ((PchCommand.expressions pairs).map quotedLine)).toList ++ ')' :: rest) =
        some (pairs.map fun pair => (configExpression pair.1 pair.2).toList) ↔
      ∀ pair ∈ pairs, '\\' ∉ pair.2.toList := by
  induction pairs with
  | nil => simp [PchCommand.expressions, quotedArguments?_close]
  | cons pair pairs ih =>
    obtain ⟨own, others⟩ := List.forall_mem_cons.mp named
    have step := ih others
    have cut : (String.join ((PchCommand.expressions (pair :: pairs)).map quotedLine)).toList ++ ')' :: rest =
        (quotedLine (configExpression pair.1 (Text.escapeQuotes pair.2))).toList ++
          ((String.join ((PchCommand.expressions pairs).map quotedLine)).toList ++ ')' :: rest) := by
      rw [PchCommand.expressions, List.map_cons, List.map_cons, String.join_cons, String.toList_append,
        List.append_assoc]
      rfl
    rw [cut, quotedArguments?_quotedLine, List.forall_mem_cons, List.map_cons]
    by_cases backslash : '\\' ∈ pair.2.toList
    · refine iff_of_false (fun read => ?_) fun clean => clean.1 backslash
      obtain ⟨⟨value, behind⟩, found, read⟩ := Option.bind_eq_some_iff.mp read
      obtain ⟨others', -, same⟩ := Option.map_eq_some_iff.mp read
      obtain ⟨rfl, -⟩ := List.cons.inj same
      exact notMem_of_quoted?_configExpression own found backslash
    · have newline : ∀ c ∈ ['\n'], c ≠ '\x22' ∧ c ≠ ')' := by simp
      have line := quotedArguments?_append newline
        ((String.join ((PchCommand.expressions pairs).map quotedLine)).toList ++ ')' :: rest)
      rw [quoted?_configExpression_of_notMem own backslash, Option.bind_some]
      rw [List.singleton_append] at line
      rw [line, ← step]
      simp [backslash]

def statedDefinitions (description : TargetDescription) : List (String × String) :=
  (joined description.definitions).filter (·.2 ≠ "")

def quotedLines (pairs : List (String × String)) : String :=
  String.join ((PchCommand.expressions pairs).map quotedLine)

def targetDefinitions (name : String) (stated : List (String × String)) : String :=
  "target_compile_definitions(" ++ name ++ " PRIVATE\n" ++ quotedLines stated ++ ")"

def sourceDefinitions (description : TargetDescription) : String :=
  String.join (description.fileDefinitions.map fun own =>
    sourceListProperty "COMPILE_DEFINITIONS" own.file (joined own.values))

theorem quotedExpressions_joined (description : TargetDescription) :
    quotedExpressions (escaped (joined description.definitions)) = quotedLines (statedDefinitions description) := by
  rw [quotedExpressions, PchCommand.configExpressions_escaped]
  rfl

theorem quotedLines_ne_empty {pairs : List (String × String)} (filled : pairs ≠ []) : quotedLines pairs ≠ "" := by
  obtain ⟨pair, rest, rfl⟩ := List.exists_cons_of_ne_nil filled
  simp [quotedLines, PchCommand.expressions, String.join_cons, quotedLine]

theorem definitions_of_unstated {description : TargetDescription} (unstated : statedDefinitions description = []) :
    definitions description = sourceDefinitions description := by
  rw [definitions, quotedExpressions_joined, unstated]
  exact String.empty_append

theorem definitions_of_stated {description : TargetDescription} (stated : statedDefinitions description ≠ []) :
    definitions description = targetDefinitions description.target.name (statedDefinitions description) ++ "\n" ++
      sourceDefinitions description := by
  have closing : ")\n" = ")" ++ "\n" := rfl
  unfold definitions command targetDefinitions
  rw [quotedExpressions_joined, if_neg (quotedLines_ne_empty stated), closing, ← String.append_assoc]
  rfl

def aheadOfDefinitions (description : TargetDescription) : String :=
  Conversion.preamble description.target description.environmentVariables ++ declaration description.target ++ "\n" ++
    titled "Output file name" (outputNames description.target) ++
    titled "Additional include directories" (includeDirectories description)

theorem titled_definitions {description : TargetDescription} (stated : statedDefinitions description ≠ []) :
    titled "Preprocessor definitions" (definitions description) = "# Preprocessor definitions\n" ++
      (targetDefinitions description.target.name (statedDefinitions description) ++ "\n" ++
        sourceDefinitions description) ++ "\n" := by
  have filled : definitions description ≠ "" := by
    rw [definitions_of_stated stated]
    intro none
    rw [String.append_eq_empty_iff, String.append_eq_empty_iff] at none
    exact absurd none.1.2 (by decide)
  unfold titled
  rw [if_neg filled, definitions_of_stated stated]
  rfl

theorem exists_ofTarget_eq {description : TargetDescription} (stated : statedDefinitions description ≠ []) :
    ∃ rest, ofTarget description = aheadOfDefinitions description ++ "# Preprocessor definitions\n" ++
      (targetDefinitions description.target.name (statedDefinitions description) ++ rest) := by
  obtain ⟨front, later, body_eq, ahead⟩ : ∃ front later,
      body description = front ++ titled "Preprocessor definitions" (definitions description) ++ later ∧
        aheadOfDefinitions description =
          header description.target.name ++ environmentCheck description.environmentVariables ++ front := by
    unfold body aheadOfDefinitions Conversion.preamble
    refine ⟨configurationTypes description.target.configurationNames ++ useOfMfc description.target.useOfMfc ++
      declaration description.target ++ "\n" ++ titled "Output file name" (outputNames description.target) ++
      titled "Additional include directories" (includeDirectories description), ?_, ?_, ?_⟩
    rotate_left
    · simp only [String.append_assoc]
      rfl
    · simp only [String.append_assoc]
  unfold ofTarget
  rw [body_eq, titled_definitions stated, ahead]
  unfold targetDefinitions
  generalize "target_compile_definitions(" ++ description.target.name ++ " PRIVATE\n" ++
    quotedLines (statedDefinitions description) = command
  have cut : front ++ ("# Preprocessor definitions\n" ++ (command ++ ")" ++ "\n" ++ sourceDefinitions description) ++
      "\n") ++ later = front ++ "# Preprocessor definitions\n" ++ command ++ ")" ++
        ("\n" ++ sourceDefinitions description ++ "\n" ++ later) := by
    simp only [String.append_assoc]
  rw [cut, Conversion.trimEnd_behind]
  refine ⟨Text.trimEnd ("\n" ++ sourceDefinitions description ++ "\n" ++ later) ++ "\n", ?_⟩
  simp only [String.append_assoc]

/-- Whether the reader of a listfile takes no character of the names around the definitions for its own. -/
structure PlainlyNamed (description : TargetDescription) : Prop where
  target : Text.Lacks delimiters description.target.name
  configurations : ∀ entry ∈ description.definitions, Text.Lacks delimiters entry.1

theorem argumentsOf?_targetDefinitions_iff {name : String} (named : Text.Lacks delimiters name)
    {stated : List (String × String)} (configurations : ∀ entry ∈ stated, Text.Lacks delimiters entry.1)
    (rest : String) :
    argumentsOf? "target_compile_definitions" (targetDefinitions name stated ++ rest) =
        some (stated.map fun entry => configExpression entry.1 entry.2) ↔
      ∀ entry ∈ stated, '\\' ∉ entry.2.toList := by
  have outside : ∀ c ∈ (name ++ " PRIVATE\n").toList, c ≠ '\x22' ∧ c ≠ ')' := by
    have plain : Text.Lacks delimiters (name ++ " PRIVATE\n") := named.append (by decide)
    intro c member
    constructor
    all_goals
      rintro rfl
      exact plain _ member (by decide)
  have shape : (targetDefinitions name stated ++ rest).toList =
      ("target_compile_definitions" ++ "(").toList ++
        ((name ++ " PRIVATE\n").toList ++ ((quotedLines stated).toList ++ ')' :: rest.toList)) := by
    unfold targetDefinitions
    simp
  have weaker : ∀ entry ∈ stated, Text.Lacks ['\x22', '\\'] entry.1 :=
    fun entry member c inside special => configurations entry member c inside (List.mem_append_left ['(', ')'] special)
  have texts : stated.map (fun entry => configExpression entry.1 entry.2) =
      (stated.map fun entry => (configExpression entry.1 entry.2).toList).map String.ofList := by
    simp [Function.comp_def]
  have opened := Text.after?_eq_some_iff.mpr shape
  have injective : (List.map String.ofList).Injective :=
    List.map_injective_iff.mpr fun _ _ same => String.ofList_inj.mp same
  rw [argumentsOf?, opened, Option.bind_some, quotedArguments?_append outside, texts,
    ← quotedArguments?_lines_iff weaker rest.toList, ← Option.map_some, (Option.map_injective injective).eq_iff]
  rfl

theorem forall_backslash_notMem_stated_iff {description : TargetDescription} :
    (∀ entry ∈ statedDefinitions description, '\\' ∉ entry.2.toList) ↔
      ∀ entry ∈ description.definitions, ∀ definition ∈ entry.2, '\\' ∉ definition.toList := by
  have inner (definitions : List String) : '\\' ∈ (";".intercalate definitions).toList ↔
      ∃ definition ∈ definitions, '\\' ∈ definition.toList := mem_intercalate_iff (by decide)
  constructor
  · intro none entry inside definition member backslash
    have whole : '\\' ∈ (";".intercalate entry.2).toList := (inner _).mpr ⟨definition, member, backslash⟩
    have filled : ";".intercalate entry.2 ≠ "" := by
      intro empty
      rw [empty] at whole
      exact absurd whole List.not_mem_nil
    exact none _ (List.mem_filter.mpr ⟨List.mem_map_of_mem inside, decide_eq_true filled⟩) whole
  · intro none entry member backslash
    obtain ⟨own, inside, rfl⟩ := List.mem_map.mp (List.mem_filter.mp member).1
    obtain ⟨definition, defined, within⟩ := (inner _).mp backslash
    exact none own inside definition defined within

/-- The command for the definitions of a target is read as the definitions that the target has in each configuration
that has any, unless there is a backslash in one of them. -/
theorem definitions_read_back_iff {description : TargetDescription} (named : PlainlyNamed description) :
    (statedDefinitions description = [] → definitions description = sourceDefinitions description) ∧
      (statedDefinitions description ≠ [] →
        ∃ rest, ofTarget description = aheadOfDefinitions description ++ "# Preprocessor definitions\n" ++ rest ∧
          (argumentsOf? "target_compile_definitions" rest =
              some ((statedDefinitions description).map fun entry => configExpression entry.1 entry.2) ↔
            ∀ entry ∈ description.definitions, ∀ definition ∈ entry.2, '\\' ∉ definition.toList)) := by
  refine ⟨definitions_of_unstated, fun stated => ?_⟩
  obtain ⟨rest, whole⟩ := exists_ofTarget_eq stated
  have configurations : ∀ entry ∈ statedDefinitions description, Text.Lacks delimiters entry.1 := by
    intro entry member
    obtain ⟨own, inside, rfl⟩ := List.mem_map.mp (List.mem_filter.mp member).1
    exact named.configurations own inside
  exact ⟨_, whole, (argumentsOf?_targetDefinitions_iff named.target configurations rest).trans
    forall_backslash_notMem_stated_iff⟩

theorem quotes_read_back :
    PlainlyNamed Sample.quotingDescription ∧ statedDefinitions Sample.quotingDescription ≠ [] ∧
      ∃ rest, ofTarget Sample.quotingDescription =
          aheadOfDefinitions Sample.quotingDescription ++ "# Preprocessor definitions\n" ++ rest ∧
        argumentsOf? "target_compile_definitions" rest = some ["$<$<CONFIG:Debug>:NAME=\"app\">"] := by
  have named : PlainlyNamed Sample.quotingDescription := ⟨by decide, by decide⟩
  have stated : statedDefinitions Sample.quotingDescription ≠ [] := by decide
  obtain ⟨rest, whole, read⟩ := (definitions_read_back_iff named).2 stated
  exact ⟨named, stated, rest, whole, read.mpr (by decide)⟩

end Descriptor

namespace Sample

/-- Quotes that are already escaped, as the compiler needs them. -/
def escapingDescription : TargetDescription :=
  { quotingDescription with definitions := [("Debug", ["NAME=\\\"app\\\""])] }

end Sample

namespace Descriptor

open Scan

/-- Behind a backslash the quote is not escaped but ends the argument. -/
theorem escaped_quotes_are_lost :
    PlainlyNamed Sample.escapingDescription ∧ statedDefinitions Sample.escapingDescription ≠ [] ∧
      (statedDefinitions Sample.escapingDescription).map (fun entry => configExpression entry.1 entry.2) =
        ["$<$<CONFIG:Debug>:NAME=\\\"app\\\">"] ∧
      ∃ rest, ofTarget Sample.escapingDescription =
          aheadOfDefinitions Sample.escapingDescription ++ "# Preprocessor definitions\n" ++ rest ∧
        argumentsOf? "target_compile_definitions" rest = some ["$<$<CONFIG:Debug>:NAME=\\", ">"] := by
  have stated : statedDefinitions Sample.escapingDescription ≠ [] := by decide
  obtain ⟨rest, whole⟩ := exists_ofTarget_eq stated
  refine ⟨⟨by decide, by decide⟩, stated, by decide, _, whole, ?_⟩
  have shape : (targetDefinitions Sample.escapingDescription.target.name
      (statedDefinitions Sample.escapingDescription) ++ rest).toList = ("target_compile_definitions" ++ "(").toList ++
        ("app PRIVATE\n  \"$<$<CONFIG:Debug>:NAME=\\\\\"app\\\\\">\"\n)".toList ++ rest.toList) := by
    rw [String.toList_append, ← List.append_assoc]
    congr 1
  have opened := Text.after?_eq_some_iff.mpr shape
  rw [argumentsOf?, opened, Option.bind_some]
  simp [quotedArguments?_quote, quotedArguments?_other, quotedArguments?_close, quoted?, readAhead]

end Descriptor

end Listfile
