import Listfile.Text.Blank
import Listfile.Text.Split
import Mathlib.Data.List.Basic

/-!
How a listfile is read character by character: quoted arguments, comments, the arguments of a command between
parentheses, and the blocks that commands open and close.
-/

namespace Listfile.Scan

inductive Mode where
  | code
  | quoted
  /-- Behind a backslash within quotes. -/
  | escaped
  | comment
  deriving DecidableEq

/-- What is open until a later command closes it: a branch that another one may follow, the last branch, or a loop. -/
inductive Block where
  | branch
  | lastBranch
  | loop
  deriving DecidableEq

structure State where
  mode : Mode
  depth : Nat
  /-- What stands on the line so far, outside of parentheses and from the first character that is not blank, with the
  last character first. -/
  word : List Char
  /-- The blocks around, innermost first. -/
  blocks : List Block
  deriving DecidableEq

/-- What a command does to the blocks around it. -/
inductive Effect where
  | enter (block : Block)
  | switch
  | leaveBranch
  | leaveLoop
  | none

def effectOf : List Char → Effect
  | ['i', 'f'] => .enter .branch
  | ['e', 'l', 's', 'e'] => .switch
  | ['e', 'n', 'd', 'i', 'f'] => .leaveBranch
  | ['f', 'o', 'r', 'e', 'a', 'c', 'h'] => .enter .loop
  | ['e', 'n', 'd', 'f', 'o', 'r', 'e', 'a', 'c', 'h'] => .leaveLoop
  | _ => .none

def Effect.on? : Effect → List Block → Option (List Block)
  | .enter block, blocks => some (block :: blocks)
  | .switch, .branch :: outer => some (.lastBranch :: outer)
  | .leaveBranch, .branch :: outer => some outer
  | .leaveBranch, .lastBranch :: outer => some outer
  | .leaveLoop, .loop :: outer => some outer
  | .none, blocks => some blocks
  | _, _ => Option.none

/-- The word with one more character. Blanks before it do not count, nor does what stands between parentheses. -/
def spell (depth : Nat) (word : List Char) (c : Char) : List Char :=
  if depth ≠ 0 ∨ word = [] ∧ Text.isBlank c = true then word else c :: word

/-- A character outside of quotes and comments. Only one parenthesis may be open, and only one that is open closed. -/
def codeStep? (state : State) (c : Char) : Option State :=
  if c = '\x22' then some { state with mode := .quoted }
  else if c = '#' then some { state with mode := .comment }
  else if c = '(' then
    if state.depth = 0 then
      ((effectOf (state.word.dropWhile Text.isBlank).reverse).on? state.blocks).map fun blocks =>
        { state with depth := 1, word := [], blocks }
    else none
  else if c = ')' then if state.depth = 1 then some { state with depth := 0 } else none
  else if c = '\n' then some { state with word := [] }
  else some { state with word := spell state.depth state.word c }

def step? (state : State) (c : Char) : Option State :=
  match state.mode with
  | .code => codeStep? state c
  | .quoted =>
    some { state with mode := if c = '\x22' then .code else if c = '\\' then .escaped else .quoted }
  | .escaped => some { state with mode := .quoted }
  | .comment => some (if c = '\n' then { state with mode := .code, word := [] } else state)

def run? (state : State) (text : String) : Option State := text.toList.foldlM step? state

/-- Between commands, with no block around. -/
def commands : State := ⟨.code, 0, [], []⟩

/-- Whether the text can be read as commands that close every quote, parenthesis and block they open. -/
def Balanced (text : String) : Prop :=
  ∃ final ∈ run? commands text, final.mode = .code ∧ final.depth = 0 ∧ final.blocks = []

instance (text : String) : Decidable (Balanced text) :=
  inferInstanceAs (Decidable (∃ final ∈ run? commands text, _))

example : Balanced "if (A)\n  set(B \"(\\\"\") # (\nendif ()\n" := by decide

example : ¬Balanced "foreach (A)\nif (B)\nendforeach ()\nendif ()\n" := by decide

def arguments : State := ⟨.code, 1, [], []⟩

def quotes : State := ⟨.quoted, 1, [], []⟩

def State.within (state : State) (outer : List Block) : State := { state with blocks := state.blocks ++ outer }

/-! Parts of a text. -/

section

variable {first second last state : State}

def Leads (first : State) (text : String) (last : State) : Prop := run? first text = some last

theorem leads_ofList {cs : List Char} (read : cs.foldlM step? first = some last) :
    Leads first (String.ofList cs) last := by
  rw [Leads, run?, String.toList_ofList]
  exact read

theorem run?_append (state : State) (text rest : String) :
    run? state (text ++ rest) = (run? state text).bind (run? · rest) := by
  rw [run?, String.toList_append, List.foldlM_append]
  rfl

theorem Leads.empty (state : State) : Leads state "" state := rfl

theorem Leads.append {text rest : String} (leads : Leads first text second) (onward : Leads second rest last) :
    Leads first (text ++ rest) last := by
  rw [Leads, run?_append, leads]
  exact onward

theorem Leads.join {texts : List String} (each : ∀ text ∈ texts, Leads state text state) :
    Leads state (String.join texts) state := by
  induction texts with
  | nil => exact .empty state
  | cons text rest ih =>
    rw [String.join_cons]
    exact (each text List.mem_cons_self).append (ih fun other member => each other (List.mem_cons_of_mem _ member))

theorem Leads.intercalate {separator : String} (between : Leads state separator state) {texts : List String}
    (each : ∀ text ∈ texts, Leads state text state) : Leads state (separator.intercalate texts) state := by
  induction texts with
  | nil => exact .empty state
  | cons text rest ih =>
    have first : Leads state text state := each text List.mem_cons_self
    have others : Leads state (separator.intercalate rest) state :=
      ih fun other member => each other (List.mem_cons_of_mem _ member)
    cases rest with
    | nil =>
      rw [String.intercalate_singleton]
      exact first
    | cons second rest =>
      rw [String.intercalate_cons_cons]
      exact (first.append between).append others

theorem leads_of_forall {text : String} (each : ∀ c ∈ text.toList, step? state c = some state) :
    Leads state text state := by
  rw [Leads, run?]
  generalize text.toList = cs at each
  induction cs with
  | nil => rfl
  | cons c rest ih =>
    rw [List.foldlM_cons, each c List.mem_cons_self]
    exact ih fun other member => each other (List.mem_cons_of_mem _ member)

end

/-! What stands around makes no difference to how a text is read. -/

section

variable {first last : State}

theorem Effect.on?_append {effect : Effect} {blocks entered : List Block} (given : effect.on? blocks = some entered)
    (outer : List Block) : effect.on? (blocks ++ outer) = some (entered ++ outer) := by
  unfold Effect.on? at given
  split at given <;> cases given <;> rfl

theorem codeStep?_within {c : Char} (stepped : codeStep? first c = some last) (outer : List Block) :
    codeStep? (first.within outer) c = some (last.within outer) := by
  unfold codeStep? at stepped ⊢
  by_cases quote : c = '\x22'
  · rw [if_pos quote] at stepped ⊢
    cases stepped
    rfl
  rw [if_neg quote] at stepped ⊢
  by_cases hash : c = '#'
  · rw [if_pos hash] at stepped ⊢
    cases stepped
    rfl
  rw [if_neg hash] at stepped ⊢
  by_cases opened : c = '('
  · rw [if_pos opened] at stepped ⊢
    split at stepped
    next outside =>
      -- Here a command begins, the only step that looks at the blocks.
      obtain ⟨entered, found, rfl⟩ := Option.map_eq_some_iff.mp stepped
      simp only [State.within, outside, Effect.on?_append found outer, if_true, Option.map_some]
    next => cases stepped
  rw [if_neg opened] at stepped ⊢
  by_cases closed : c = ')'
  · rw [if_pos closed] at stepped ⊢
    split at stepped
    next inside =>
      cases stepped
      simp only [State.within, inside, if_true]
    next => cases stepped
  rw [if_neg closed] at stepped ⊢
  by_cases ended : c = '\n'
  · rw [if_pos ended] at stepped ⊢
    cases stepped
    rfl
  rw [if_neg ended] at stepped ⊢
  cases stepped
  rfl

theorem step?_within {c : Char} (stepped : step? first c = some last) (outer : List Block) :
    step? (first.within outer) c = some (last.within outer) := by
  obtain ⟨mode, depth, word, blocks⟩ := first
  cases mode with
  | code => exact codeStep?_within stepped outer
  | quoted =>
    cases stepped
    rfl
  | escaped =>
    cases stepped
    rfl
  | comment =>
    cases stepped
    show some (if c = '\n' then _ else _) = some (State.within (if c = '\n' then _ else _) outer)
    split <;> rfl

theorem Leads.within {text : String} (leads : Leads first text last) (outer : List Block) :
    Leads (first.within outer) text (last.within outer) := by
  rw [Leads, run?] at leads ⊢
  generalize text.toList = cs at leads
  induction cs generalizing first with
  | nil =>
    cases leads
    rfl
  | cons c rest ih =>
    rw [List.foldlM_cons] at leads ⊢
    obtain ⟨middle, stepped, onward⟩ := Option.bind_eq_some_iff.mp leads
    rw [step?_within stepped outer]
    exact ih onward

end

/-! Lines. -/

def AtLineStart (state : State) : Prop := state.mode = .quoted ∨ state.mode = .code ∧ state.word = []

theorem atLineStart_of_lineFeed {first last : State} (stepped : step? first '\n' = some last) : AtLineStart last := by
  obtain ⟨mode, depth, word, blocks⟩ := first
  cases mode <;> cases stepped
  · exact .inr ⟨rfl, rfl⟩
  · exact .inl rfl
  · exact .inl rfl
  · exact .inr ⟨rfl, rfl⟩

theorem AtLineStart.step?_blank {state : State} (start : AtLineStart state) : step? state ' ' = some state := by
  obtain ⟨mode, depth, word, blocks⟩ := state
  rcases start with rfl | ⟨rfl, rfl⟩
  · rfl
  · have skipped : spell depth [] ' ' = [] := if_pos (.inr ⟨rfl, by decide⟩)
    show some (State.mk .code depth (spell depth [] ' ') blocks) = _
    rw [skipped]

theorem AtLineStart.step?_lineFeed {state : State} (start : AtLineStart state) : step? state '\n' = some state := by
  obtain ⟨mode, depth, word, blocks⟩ := state
  rcases start with rfl | ⟨rfl, rfl⟩ <;> rfl

theorem step?_carriageReturn (state : State) :
    (step? state '\r').bind (step? · '\n') = step? state '\n' := by
  obtain ⟨mode, depth, word, blocks⟩ := state
  cases mode <;> rfl

def shifted (line : List Char) : List Char := if line = [] then [] else ' ' :: ' ' :: (line ++ ['\n'])

theorem foldlM_shifted {state : State} (start : AtLineStart state) (line : List Char) :
    (shifted line).foldlM step? state = (line ++ ['\n']).foldlM step? state := by
  unfold shifted
  split
  next none =>
    rw [none, List.nil_append, List.foldlM_cons, start.step?_lineFeed]
    rfl
  next =>
    rw [List.foldlM_cons, start.step?_blank]
    show (' ' :: (line ++ ['\n'])).foldlM step? state = _
    rw [List.foldlM_cons, start.step?_blank]
    rfl

theorem foldlM_dropCarriageReturn (state : State) (line : List Char) :
    (Text.dropCarriageReturn line ++ ['\n']).foldlM step? state = (line ++ ['\n']).foldlM step? state := by
  unfold Text.dropCarriageReturn
  split
  next returned =>
    obtain ⟨before, rfl⟩ := List.getLast?_eq_some_iff.mp returned
    rw [List.dropLast_concat, List.append_assoc, List.foldlM_append, List.foldlM_append]
    congr 1
    funext middle
    simp only [List.singleton_append, List.foldlM_cons, List.foldlM_nil, bind_pure]
    exact (step?_carriageReturn middle).symm
  next => rfl

theorem foldlM_flatMap_shifted {first last : State} (start : AtLineStart first) {lines : List (List Char)}
    (read : (lines.flatMap (· ++ ['\n'])).foldlM step? first = some last) :
    ((lines.map Text.dropCarriageReturn).flatMap shifted).foldlM step? first = some last ∧ AtLineStart last := by
  induction lines generalizing first with
  | nil =>
    cases read
    exact ⟨rfl, start⟩
  | cons line rest ih =>
    rw [List.flatMap_cons, List.foldlM_append] at read
    obtain ⟨middle, ended, onward⟩ := Option.bind_eq_some_iff.mp read
    have next : AtLineStart middle := by
      rw [List.foldlM_append] at ended
      obtain ⟨before, -, stepped⟩ := Option.bind_eq_some_iff.mp ended
      simp only [List.foldlM_cons, List.foldlM_nil, bind_pure] at stepped
      exact atLineStart_of_lineFeed stepped
    rw [List.map_cons, List.flatMap_cons, List.foldlM_append, foldlM_shifted start, foldlM_dropCarriageReturn, ended]
    exact ih next onward

theorem lines_append_rest (cs : List Char) :
    (cs.splitOnP (· = '\n')).dropLast.flatMap (· ++ ['\n']) ++ (cs.splitOnP (· = '\n')).getLast?.getD [] = cs := by
  have whole : ['\n'].intercalate (cs.splitOnP (· = '\n')) = cs := List.intercalate_splitOn '\n'
  have parts (lines : List (List Char)) :
      lines.dropLast.flatMap (· ++ ['\n']) ++ lines.getLast?.getD [] = ['\n'].intercalate lines := by
    induction lines with
    | nil => rfl
    | cons line rest ih =>
      cases rest with
      | nil => simp
      | cons next rest =>
        rw [List.intercalate_cons_cons, ← ih]
        simp
  rw [parts, whole]

theorem toList_indent (text : String) :
    (Text.indent text).toList =
      (((text.toList.splitOnP (· = '\n')).dropLast.map Text.dropCarriageReturn) ++
        [(text.toList.splitOnP (· = '\n')).getLast?.getD []]).flatMap shifted := by
  have shown (lines : List (List Char)) :
      (String.join (((lines.map String.ofList).filter (· ≠ "")).map fun line => "  " ++ line ++ "\n")).toList =
        lines.flatMap shifted := by
    induction lines with
    | nil => rfl
    | cons line rest ih =>
      by_cases none : line = []
      · subst none
        exact ih
      · have filled : String.ofList line ≠ "" := fun empty => none (String.ofList_eq_empty_iff.mp empty)
        rw [List.map_cons, List.filter_cons_of_pos (by simpa using filled), List.map_cons, String.join_cons,
          String.toList_append, ih, List.flatMap_cons, shifted, if_neg none]
        simp
  rw [Text.indent, Text.lines, shown]
  split
  next none => simp [List.isEmpty_iff.mp none, shifted]
  next => rfl

/-- A text may be indented where a line begins, also within quotes. -/
theorem Leads.indent {first last : State} {text : String} (leads : Leads first text last) (start : AtLineStart first)
    (finish : AtLineStart last) : Leads first (Text.indent text) last := by
  rw [Leads, run?] at leads ⊢
  rw [← lines_append_rest text.toList, List.foldlM_append] at leads
  obtain ⟨middle, ended, rest⟩ := Option.bind_eq_some_iff.mp leads
  obtain ⟨shifted, next⟩ := foldlM_flatMap_shifted start ended
  rw [toList_indent, List.flatMap_append, List.foldlM_append, shifted]
  show (_ ++ []).foldlM step? middle = _
  rw [List.append_nil, foldlM_shifted next, List.foldlM_append, rest]
  show (step? last '\n').bind pure = _
  rw [finish.step?_lineFeed]
  rfl

theorem step?_lineFeed_of_blank {state next : State} {c : Char} (blank : Text.isBlank c = true)
    (stepped : step? state c = some next) : step? next '\n' = step? state '\n' := by
  have quote : c ≠ '\x22' := by
    rintro rfl
    exact absurd blank (by decide)
  have hash : c ≠ '#' := by
    rintro rfl
    exact absurd blank (by decide)
  have opened : c ≠ '(' := by
    rintro rfl
    exact absurd blank (by decide)
  have closed : c ≠ ')' := by
    rintro rfl
    exact absurd blank (by decide)
  have backslash : c ≠ '\\' := by
    rintro rfl
    exact absurd blank (by decide)
  obtain ⟨mode, depth, word, blocks⟩ := state
  cases mode with
  | code =>
    simp only [step?, codeStep?, if_neg quote, if_neg hash, if_neg opened, if_neg closed] at stepped
    split at stepped <;> cases stepped <;> rfl
  | quoted =>
    simp only [step?, if_neg quote, if_neg backslash] at stepped
    cases stepped
    rfl
  | escaped =>
    cases stepped
    rfl
  | comment =>
    simp only [step?] at stepped
    split at stepped <;> cases stepped <;> rfl

theorem step?_lineFeed_of_blanks {state last : State} {blanks : List Char} (blank : blanks.all Text.isBlank = true)
    (read : blanks.foldlM step? state = some last) (code : last.mode = .code) :
    step? state '\n' = some { last with word := [] } := by
  induction blanks generalizing state with
  | nil =>
    cases read
    obtain ⟨mode, depth, word, blocks⟩ := last
    cases code
    rfl
  | cons c rest ih =>
    rw [List.all_cons, Bool.and_eq_true] at blank
    rw [List.foldlM_cons] at read
    obtain ⟨next, stepped, onward⟩ := Option.bind_eq_some_iff.mp read
    rw [← step?_lineFeed_of_blank blank.1 stepped]
    exact ih blank.2 onward

/-- A text of commands may end in a line feed instead of the blanks it ends in. -/
theorem Leads.trimEnd {first last : State} {text : String} (leads : Leads first text last) (code : last.mode = .code) :
    Leads first (Text.trimEnd text ++ "\n") { last with word := [] } := by
  have trimmed : text.toList =
      Text.stripEnd Text.isBlank text.toList ++ (text.toList.reverse.takeWhile Text.isBlank).reverse := by
    rw [Text.stripEnd, ← List.reverse_append, List.takeWhile_append_dropWhile, List.reverse_reverse]
  have blank : (text.toList.reverse.takeWhile Text.isBlank).reverse.all Text.isBlank = true := by
    rw [List.all_reverse]
    exact List.all_takeWhile
  rw [Leads, run?, trimmed, List.foldlM_append] at leads
  obtain ⟨middle, before, behind⟩ := Option.bind_eq_some_iff.mp leads
  rw [Leads, run?, String.toList_append, Text.toList_trimEnd, List.foldlM_append, before]
  show (step? middle '\n').bind pure = _
  rw [step?_lineFeed_of_blanks blank behind code]
  rfl

/-! Arguments and quoted texts. -/

theorem leads_arguments {text : String}
    (each : ∀ c ∈ text.toList, c ≠ '\x22' ∧ c ≠ '#' ∧ c ≠ '(' ∧ c ≠ ')') : Leads arguments text arguments := by
  refine leads_of_forall fun c member => ?_
  obtain ⟨quote, hash, opened, closed⟩ := each c member
  show codeStep? arguments c = some arguments
  rw [codeStep?, if_neg quote, if_neg hash, if_neg opened, if_neg closed]
  split <;> rfl

theorem leads_quotes {text : String} (quote : '\x22' ∉ text.toList) (backslash : '\\' ∉ text.toList) :
    Leads quotes text quotes := by
  refine leads_of_forall fun c member => ?_
  have notQuote : c ≠ '\x22' := fun same => quote (same ▸ member)
  have notBackslash : c ≠ '\\' := fun same => backslash (same ▸ member)
  simp only [step?, quotes, if_neg notQuote, if_neg notBackslash]

/-- Quotes within quotes need a backslash before them. -/
theorem leads_escapeQuotes {text : String} (backslash : '\\' ∉ text.toList) :
    Leads quotes (Text.escapeQuotes text) quotes := by
  rw [Leads, run?, Text.escapeQuotes, String.toList_ofList]
  generalize text.toList = cs at backslash
  induction cs with
  | nil => rfl
  | cons c rest ih =>
    obtain ⟨notBackslash, others⟩ := not_or.mp (List.mem_cons.not.mp backslash)
    rw [List.flatMap_cons, List.foldlM_append]
    have kept : (if c = '\x22' then ['\\', '\x22'] else [c]).foldlM step? quotes = some quotes := by
      split
      next => rfl
      next notQuote =>
        show (step? quotes c).bind pure = _
        simp only [step?, quotes, if_neg notQuote, if_neg (Ne.symm notBackslash)]
        rfl
    rw [kept]
    exact ih others

end Listfile.Scan
