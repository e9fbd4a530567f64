import Listfile.Proofs.ExtractedSettings

/-!
Properties that are stored in one entry or in several: the items are those of the entries one after the other, it makes
no difference whether entries are joined, and items that are read again stay what they are. Extracted settings do not
depend on how the items of a property are grouped.
-/

namespace Listfile

namespace Text

/-- Whether items are read alike however they are grouped into entries, if what stands between them is a joint. -/
structure Regroups (items : List String → List String) (joint : Char → Prop) : Prop where
  append : ∀ first second, items (first ++ second) = items first ++ items second
  joined : ∀ c, joint c → ∀ values, items [(String.singleton c).intercalate values] = items values
  again : ∀ values, items (items values) = items values

/-- The items of entries that are cut at the characters in `cuts`, each of them cleaned. -/
def itemsBy (cuts : Char → Bool) (clean : List Char → List Char) (values : List String) : List String :=
  values.flatMap fun value => (((value.toList.splitOnP cuts).map clean).filter isItem).map String.ofList

theorem listItems_eq : listItems = itemsBy isSemicolon (strip isBlank) := rfl

theorem wordItems_eq : wordItems = itemsBy isSemicolonOrBlank id := by
  funext values
  simp only [wordItems, itemsBy, List.map_id]

section

variable {cuts : Char → Bool} {clean : List Char → List Char} {c : Char}

theorem itemsBy_append (first second : List String) :
    itemsBy cuts clean (first ++ second) = itemsBy cuts clean first ++ itemsBy cuts clean second :=
  List.flatMap_append

theorem itemsBy_singleton (value : String) : itemsBy cuts clean [value] =
    (((value.toList.splitOnP cuts).map clean).filter isItem).map String.ofList := List.flatMap_singleton ..

theorem itemsBy_behind (cut : cuts c = true) (first second : String) :
    itemsBy cuts clean [first ++ String.singleton c ++ second] = itemsBy cuts clean [first, second] := by
  have text : (first ++ String.singleton c ++ second).toList = first.toList ++ c :: second.toList := by simp
  rw [itemsBy_singleton, text, List.splitOnP_append_cons _ _ cut]
  simp [itemsBy]

theorem itemsBy_intercalate (empty : clean [] = []) (cut : cuts c = true) (values : List String) :
    itemsBy cuts clean [(String.singleton c).intercalate values] = itemsBy cuts clean values := by
  induction values with
  | nil => simp [itemsBy, empty, isItem]
  | cons value rest ih =>
    cases rest with
    | nil => rw [String.intercalate_singleton]
    | cons second rest =>
      calc
        itemsBy cuts clean [(String.singleton c).intercalate (value :: second :: rest)]
          = itemsBy cuts clean [value, (String.singleton c).intercalate (second :: rest)] := by
            rw [String.intercalate_cons_cons, itemsBy_behind cut]
        _ = itemsBy cuts clean [value] ++ itemsBy cuts clean [(String.singleton c).intercalate (second :: rest)] :=
            itemsBy_append [value] _
        _ = itemsBy cuts clean (value :: second :: rest) := by rw [ih, ← itemsBy_append, List.singleton_append]

theorem itemsBy_eq_self {values : List String} (whole : ∀ value ∈ values, ∀ c ∈ value.toList, cuts c = false)
    (cleaned : ∀ value ∈ values, clean value.toList = value.toList)
    (item : ∀ value ∈ values, isItem value.toList = true) : itemsBy cuts clean values = values := by
  have each : ∀ value ∈ values,
      (((value.toList.splitOnP cuts).map clean).filter isItem).map String.ofList = [value] := by
    intro value member
    rw [List.splitOnP_eq_singleton (whole value member), List.map_singleton, cleaned value member,
      List.filter_cons_of_pos (item value member), List.filter_nil, List.map_singleton, String.ofList_toList]
  rw [itemsBy, List.flatMap_congr each, List.flatMap_singleton']

end

variable {text : String}

theorem IsItem.strip_toList (item : IsItem text) : strip isBlank text.toList = text.toList := by
  rw [← toList_trim, item.trimmed]

theorem IsItem.isItem_toList (item : IsItem text) : isItem text.toList = true := by
  have stated : Macro.isPlaceholder text.toList = false := by
    rw [← item.strip_toList]
    exact item.stated
  simp [isItem, item.filled, stated]

theorem IsItem.isSemicolon_of_mem (item : IsItem text) {c : Char} (inside : c ∈ text.toList) :
    isSemicolon c = false := by
  refine beq_eq_false_iff_ne.mpr ?_
  rintro rfl
  exact item.single inside

theorem regroups_listItems : Regroups listItems (· = ';') where
  append := listItems_eq ▸ itemsBy_append
  joined := by
    rintro c rfl values
    rw [listItems_eq]
    exact itemsBy_intercalate rfl rfl values
  again values := by
    have item : ∀ value ∈ listItems values, IsItem value := fun _ => isItem_of_mem_listItems
    rw [listItems_eq] at item ⊢
    apply itemsBy_eq_self
    · exact fun value member c inside => (item value member).isSemicolon_of_mem inside
    · exact fun value member => (item value member).strip_toList
    · exact fun value member => (item value member).isItem_toList

theorem regroups_wordItems : Regroups wordItems (fun c => c = ';' ∨ isBlank c = true) where
  append := wordItems_eq ▸ itemsBy_append
  joined c joint values := by
    have cut : isSemicolonOrBlank c = true := by
      simpa only [isSemicolonOrBlank, isSemicolon, Bool.or_eq_true, beq_iff_eq] using joint
    rw [wordItems_eq]
    exact itemsBy_intercalate rfl cut values
  again values := by
    have word : ∀ value ∈ wordItems values, IsWord value := fun _ => isWord_of_mem_wordItems
    rw [wordItems_eq] at word ⊢
    apply itemsBy_eq_self
    · intro value member c inside
      rw [isSemicolonOrBlank, (word value member).isSemicolon_of_mem inside, (word value member).unbroken c inside,
        Bool.or_false]
    · exact fun value _ => rfl
    · exact fun value member => (word value member).isItem_toList

def inOneEntry (values : List String) : List String := [";".intercalate values]

theorem listItems_inOneEntry (values : List String) : listItems (inOneEntry values) = listItems values :=
  regroups_listItems.joined ';' rfl values

theorem wordItems_inOneEntry (values : List String) : wordItems (inOneEntry values) = wordItems values :=
  regroups_wordItems.joined ';' (.inl rfl) values

end Text

/-! Configurations and files with each of their properties in one entry. -/

def ProjectConfiguration.inOneEntry (configuration : ProjectConfiguration) : ProjectConfiguration :=
  { configuration with
    compiler :=
      { configuration.compiler with
        includeDirectories := Text.inOneEntry configuration.compiler.includeDirectories
        definitions := Text.inOneEntry configuration.compiler.definitions }
    linker :=
      { libraryDirectories := Text.inOneEntry configuration.linker.libraryDirectories
        dependencies := Text.inOneEntry configuration.linker.dependencies } }

def FileTool.inOneEntry (tool : FileTool) : FileTool :=
  { tool with
    includeDirectories := tool.includeDirectories.map Text.inOneEntry
    definitions := tool.definitions.map Text.inOneEntry }

def ProjectFile.inOneEntry (file : ProjectFile) : ProjectFile :=
  { file with configurations := file.configurations.mapValues fun _ => FileTool.inOneEntry }

namespace Extraction

theorem allDefinitions_inOneEntry (configuration : ProjectConfiguration) (written : List String) :
    allDefinitions configuration.inOneEntry (Text.inOneEntry written) = allDefinitions configuration written := by
  rw [allDefinitions, Text.listItems_inOneEntry]
  rfl

theorem defaultsOf_inOneEntry (document : ProjectDocument) (name : String) (configuration : ProjectConfiguration) :
    defaultsOf document name configuration.inOneEntry = defaultsOf document name configuration := by
  have definitions := allDefinitions_inOneEntry configuration configuration.compiler.definitions
  have directories := Text.listItems_inOneEntry configuration.compiler.includeDirectories
  have libraries := Text.listItems_inOneEntry configuration.linker.libraryDirectories
  have words := Text.wordItems_inOneEntry configuration.linker.dependencies
  simp only [defaultsOf, projectSettings, Settings.mk.injEq]
  exact ⟨directories, definitions, libraries, words, rfl, rfl⟩

theorem fileSettings_inOneEntry (default : Settings) (configuration : ProjectConfiguration) (file : ProjectFile)
    (tool : Option FileTool) (condition : String) (document : ProjectDocument) :
    fileSettings default configuration.inOneEntry file.inOneEntry (tool.map FileTool.inOneEntry) condition document =
      fileSettings default configuration file tool condition document := by
  have directories : Text.listItems ∘ Text.inOneEntry = Text.listItems := funext Text.listItems_inOneEntry
  have definitions : allDefinitions configuration.inOneEntry ∘ Text.inOneEntry = allDefinitions configuration :=
    funext (allDefinitions_inOneEntry configuration)
  cases tool with
  | none => rfl
  | some tool =>
    simp only [fileSettings, Option.map_some, Option.getD_some, FileTool.inOneEntry, Option.map_map, directories,
      definitions]
    rfl

theorem fileSettingsIn_inOneEntry (document : ProjectDocument) (file : ProjectFile) (name : String)
    (configuration : ProjectConfiguration) :
    fileSettingsIn document file.inOneEntry name configuration.inOneEntry =
      fileSettingsIn document file name configuration := by
  have tool : file.inOneEntry.configurations.get? configuration.inOneEntry.name =
      (file.configurations.get? configuration.name).map FileTool.inOneEntry :=
    Keyed.get?_mapValues (fun _ => FileTool.inOneEntry) file.configurations configuration.name
  rw [fileSettingsIn, defaultsOf_inOneEntry, tool, fileSettings_inOneEntry]
  rfl

theorem fileSettingsOf_inOneEntry (document : ProjectDocument) (configurations : Keyed ProjectConfiguration)
    (file : ProjectFile) :
    fileSettingsOf document (configurations.mapValues fun _ => ProjectConfiguration.inOneEntry) file.inOneEntry =
      fileSettingsOf document configurations file := by
  simp only [fileSettingsOf, Keyed.mapValues, List.map_map, Function.comp_def, fileSettingsIn_inOneEntry]
  rfl

theorem ofDocument_inOneEntry (document : ProjectDocument) (configurations : Keyed ProjectConfiguration)
    (files : List ProjectFile) :
    ofDocument document (configurations.mapValues fun _ => ProjectConfiguration.inOneEntry)
        (files.map ProjectFile.inOneEntry) = ofDocument document configurations files := by
  have defaults : (configurations.mapValues fun _ => ProjectConfiguration.inOneEntry).mapValues (defaultsOf document) =
      configurations.mapValues (defaultsOf document) := by
    simp only [Keyed.mapValues, List.map_map, Function.comp_def, defaultsOf_inOneEntry]
  have sources : (files.map ProjectFile.inOneEntry).filter (·.kind = .source) =
      (files.filter (·.kind = .source)).map ProjectFile.inOneEntry := List.filter_map
  rw [ofDocument, ofDocument, defaults, sources, List.map_map]
  simp only [Function.comp_def, fileSettingsOf_inOneEntry]

end Extraction

/-- Items and words are read alike however they are grouped into entries, so that the settings of a target are the same
whether a property is stored in one entry or in several. -/
theorem grouping_of_entries_makes_no_difference :
    Text.Regroups Text.listItems (· = ';') ∧
    Text.Regroups Text.wordItems (fun c => c = ';' ∨ Text.isBlank c = true) ∧
    ∀ (document : ProjectDocument) (configurations : Keyed ProjectConfiguration) (files : List ProjectFile),
      Extraction.ofDocument document (configurations.mapValues fun _ => ProjectConfiguration.inOneEntry)
          (files.map ProjectFile.inOneEntry) =
        Extraction.ofDocument document configurations files :=
  ⟨Text.regroups_listItems, Text.regroups_wordItems, Extraction.ofDocument_inOneEntry⟩

/-- What is cut apart by a semicolon is no placeholder any more. -/
example : Text.listItems ["%(a; b);%(c)", " d "] = ["%(a", "b)", "d"] := by decide +kernel

end Listfile
