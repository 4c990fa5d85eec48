import Mathlib
import Workflow.Proofs.Files.Child
import Workflow.Settings.Load

/-!
# Where settings come from

A setting takes the value of the last variable for it, and without one the last value that its key
is assigned at the top of the document or in a table there. A key that is assigned only in tables
within tables or in arrays is not found, and the setting keeps its default.
-/

namespace Workflow

open Workflow.Text

namespace Toml

/-- The values that a key is assigned among the fields of a table itself. -/
def direct (key : String) (fields : Fields) : List Value :=
  fields.filterMap fun field => if field.1 = key then some field.2 else none

mutual

/-- The values that a key is assigned in the tables of a value, at any depth. -/
def Value.assigned (key : String) : Value → List Value
  | .table fields => assignedIn key fields
  | .array items => assignedAmong key items
  | _ => []

def assignedIn (key : String) : List (String × Value) → List Value
  | [] => []
  | (name, value) :: fields =>
    (if name = key then [value] else []) ++ (value.assigned key ++ assignedIn key fields)

def assignedAmong (key : String) : List Value → List Value
  | [] => []
  | item :: items => item.assigned key ++ assignedAmong key items

end

section Direct

variable {key name : String} {value : Value} {fields : Fields}

theorem direct_cons (field : String × Value) (fields : Fields) :
    direct key (field :: fields) =
      (if field.1 = key then [field.2] else []) ++ direct key fields := by
  rw [direct, List.filterMap_cons]
  by_cases h : field.1 = key
  · simp [h, direct]
  · simp [h, direct]

theorem direct_append (fields more : Fields) :
    direct key (fields ++ more) = direct key fields ++ direct key more :=
  List.filterMap_append

theorem mem_direct_iff : value ∈ direct key fields ↔ (key, value) ∈ fields := by
  simp [direct]

theorem direct_sublist_assignedIn (fields : Fields) :
    (direct key fields).Sublist (assignedIn key fields) := by
  induction fields with
  | nil => exact List.Sublist.refl _
  | cons field fields ih =>
    obtain ⟨name, value⟩ := field
    rw [direct_cons, assignedIn]
    exact (List.Sublist.refl _).append (ih.trans (List.sublist_append_right _ _))

end Direct

end Toml

/-- A path that begins with `~` begins in the home directory, or in that of the user whose name
follows; all others stay as they are. -/
inductive Environment.Expands (env : Environment) : Path → Path → Prop
  | home (rest : List String) :
    Expands env ⟨0, "~" :: rest⟩ { env.home with parts := env.home.parts ++ rest }
  | user {user : String} {home : Path} (hUser : user ≠ "")
    (hHome : env.users.lookup user = some home) (rest : List String) :
    Expands env ⟨0, ("~" ++ user) :: rest⟩ { home with parts := home.parts ++ rest }
  | plain {p : Path} (h : p.slashes = 0 → ∀ first ∈ p.parts.head?, first.toList.head? ≠ some '~') :
    Expands env p p

theorem Environment.expands_of_expand? {env : Environment} {p q : Path}
    (h : env.expand? p = some q) : env.Expands p q := by
  obtain ⟨slashes, parts⟩ := p
  cases parts with
  | nil =>
    cases h
    exact .plain fun _ _ hFirst => nomatch hFirst
  | cons first rest =>
    simp only [expand?] at h
    split at h
    · next user hAbsolute hFirst =>
      have hSlashes : slashes = 0 := by simpa [Path.isAbsolute] using hAbsolute
      have hName : first = "~" ++ String.ofList user := by
        rw [← String.toList_inj, hFirst]
        simp
      obtain ⟨home, hHome, rfl⟩ := Option.map_eq_some_iff.mp h
      subst hSlashes hName
      split at hHome
      · next hEmpty =>
        cases hHome
        rw [List.isEmpty_iff.mp hEmpty]
        exact .home rest
      · next hUser =>
        refine .user (fun hEmpty => hUser ?_) hHome rest
        rw [List.isEmpty_iff, ← String.toList_ofList (l := user), hEmpty]
        rfl
    · next hOther =>
      cases h
      refine .plain fun hSlashes found hFound hTilde => ?_
      cases hFound
      obtain ⟨user, hUser⟩ := List.head?_eq_some_iff.mp hTilde
      have hZero : slashes = 0 := hSlashes
      exact hOther user (by simp [Path.isAbsolute, hZero]) hUser

namespace Settings

/-- The name of a variable for a setting: the prefix and the name of the setting in any letter
case. -/
def IsVariable (name word : String) : Prop :=
  ∃ cased : List Char, word.toList = variablePrefix.toList ++ cased ∧
    cased.map Char.toLower = name.toList

theorem isVariable_iff {name word : String} :
    IsVariable name word ↔ variablePrefix.toList <+: word.toList ∧
      (word.toList.drop variablePrefix.length).map Char.toLower = name.toList := by
  constructor
  · rintro ⟨cased, hWord, hCased⟩
    rw [hWord]
    exact ⟨List.prefix_append _ _, by rw [← hCased, ← String.length_toList, List.drop_left]⟩
  · rintro ⟨⟨cased, hWord⟩, hCased⟩
    rw [← hWord, ← String.length_toList, List.drop_left] at hCased
    exact ⟨cased, hWord.symm, hCased⟩

instance (name word : String) : Decidable (IsVariable name word) :=
  decidable_of_iff _ isVariable_iff.symm

/-- A document assigns a value to a key at its top, or in a table there. -/
def Reaches (name : String) (value : Toml.Value) (fields : Toml.Fields) : Prop :=
  ((name, value) ∈ fields ∧ ∀ inner, value ≠ .table inner) ∨
    ∃ table inner, (table, .table inner) ∈ fields ∧ (name, value) ∈ inner

def levelWord (text : String) : String :=
  if upper (trim text) = "WARN" then "WARNING" else upper (trim text)

def paths : List (String × (Settings → Option Path)) :=
  [("log_file", logFile), ("home_dir", homeDir), ("repo_root", repoRoot)]

/-- The setting of a name is the one that a given value means, or its default without one. -/
inductive Takes (env : Environment) (s : Settings) : String → Option Toml.Value → Prop
  | level {text : String} (h : s.logLevel.word = levelWord text) :
    Takes env s "log_level" (some (.string text))
  | defaultLevel (h : s.logLevel = .info) : Takes env s "log_level" none
  | path {name text : String} {get : Settings → Option Path} {path : Path}
    (hName : (name, get) ∈ paths) (hPath : env.Expands (.parse text) path)
    (h : get s = some path) : Takes env s name (some (.string text))
  | noPath {name : String} {get : Settings → Option Path} (hName : (name, get) ∈ paths)
    (h : get s = none) : Takes env s name none

section Reading

variable {env : Environment} {s : Settings} {assigned : Table String Toml.Value} {name : String}
  {given : Option Toml.Value}

theorem of_ofAssignments (h : ofAssignments env assigned = .ok s) :
    readLevel (assigned.get? "log_level") = .ok s.logLevel ∧
      ∀ entry ∈ paths, readPath env (assigned.get? entry.1) = .ok (entry.2 s) := by
  simp only [ofAssignments] at h
  split at h
  · next hLevel hFile hHome hRoot =>
    cases h
    refine ⟨hLevel, ?_⟩
    simp only [paths, List.forall_mem_cons]
    exact ⟨hFile, hHome, hRoot, List.forall_mem_nil _⟩
  · split at h <;> cases h

theorem takes_of_readLevel (h : readLevel given = .ok s.logLevel) :
    s.Takes env "log_level" given := by
  unfold readLevel at h
  split at h
  · exact .defaultLevel (Except.ok.inj h).symm
  · next text =>
    simp only at h
    split at h
    · next level hWord =>
      have hFound := List.find?_some hWord
      rw [Except.ok.inj h, beq_iff_eq] at hFound
      exact .level hFound
    · cases h
  · cases h

theorem takes_of_readPath {get : Settings → Option Path} (hName : (name, get) ∈ paths)
    (h : readPath env given = .ok (get s)) : s.Takes env name given := by
  unfold readPath at h
  split at h
  · exact .noPath hName (Except.ok.inj h).symm
  · next text =>
    simp only at h
    split at h
    · next path hPath => exact .path hName (env.expands_of_expand? hPath) (Except.ok.inj h).symm
    · split at h <;> cases h
  · cases h

theorem takes_of_ofAssignments (h : ofAssignments env assigned = .ok s) (hName : name ∈ names) :
    s.Takes env name (assigned.get? name) := by
  obtain ⟨hLevel, hPaths⟩ := of_ofAssignments h
  obtain rfl | hName := List.mem_cons.mp hName
  · exact takes_of_readLevel hLevel
  · obtain ⟨entry, hEntry, rfl⟩ : ∃ entry ∈ paths, entry.1 = name := by
      simpa [paths, eq_comm] using hName
    exact takes_of_readPath hEntry (hPaths entry hEntry)

end Reading

section Sources

variable {name word text : String} {value : Toml.Value} {fields : Toml.Fields}
  {given before after : List (String × String)}

theorem ofVariable?_eq_some_iff :
    ofVariable? word = some name ↔ name ∈ names ∧ IsVariable name word := by
  have hName : String.ofList ((word.toList.drop variablePrefix.length).map Char.toLower) = name ↔
      (word.toList.drop variablePrefix.length).map Char.toLower = name.toList := by
    rw [← String.toList_inj, String.toList_ofList]
  rw [ofVariable?, isVariable_iff, ← hName, ← List.isPrefixOf_iff_prefix]
  constructor
  · intro h
    split at h
    · next hPrefix =>
      obtain ⟨hMem, hSome⟩ := Option.ite_none_right_eq_some.mp h
      rw [← Option.some.inj hSome]
      exact ⟨by simpa using hMem, hPrefix, rfl⟩
    · cases h
  · rintro ⟨hMem, hPrefix, rfl⟩
    rw [if_pos hPrefix]
    exact if_pos (by simpa using hMem)

theorem overrides_append (given more : List (String × String)) :
    overrides (given ++ more) = overrides given ++ overrides more :=
  List.filterMap_append

theorem direct_overrides_of_none (h : ∀ v ∈ given, ¬ IsVariable name v.1) :
    Toml.direct name (overrides given) = [] := by
  refine List.eq_nil_iff_forall_not_mem.mpr fun value hValue => ?_
  obtain ⟨v, hv, hEq⟩ := List.mem_filterMap.mp (Toml.mem_direct_iff.mp hValue)
  obtain ⟨other, hOther, hEq⟩ := Option.map_eq_some_iff.mp hEq
  cases hEq
  exact h v hv (ofVariable?_eq_some_iff.mp hOther).2

theorem direct_overrides_of_variable (hName : name ∈ names) (hWord : IsVariable name word) :
    Toml.direct name (overrides ((word, text) :: given)) =
      .string text :: Toml.direct name (overrides given) := by
  have hFirst : overrides ((word, text) :: given) = (name, .string text) :: overrides given := by
    rw [overrides, List.filterMap_cons, ofVariable?_eq_some_iff.mpr ⟨hName, hWord⟩]
    rfl
  rw [hFirst, Toml.direct_cons, if_pos rfl, List.singleton_append]

theorem lookup_reverse (fields : Toml.Fields) :
    fields.reverse.lookup name = (Toml.direct name fields).getLast? := by
  rw [List.lookup_eq_findSome?, ← List.head?_filterMap, List.filterMap_reverse, List.head?_reverse,
    Toml.direct]
  have hSame (field : String × Toml.Value) : (if (name == field.1) = true then some field.2
      else none) = if field.1 = name then some field.2 else none := by
    exact if_congr (beq_iff_eq.trans eq_comm) rfl rfl
  simp only [hSame]

theorem get?_assignments : (assignments fields given).get? name =
    (Toml.direct name (flatten fields) ++ Toml.direct name (overrides given)).getLast? := by
  rw [assignments, Table.get?_ofList, lookup_reverse, Toml.direct_append]

theorem mem_direct_flatten_iff :
    value ∈ Toml.direct name (flatten fields) ↔ Reaches name value fields := by
  rw [Toml.mem_direct_iff, flatten, List.mem_flatMap, Reaches]
  constructor
  · rintro ⟨⟨key, found⟩, hField, hMem⟩
    cases found with
    | table inner => exact .inr ⟨key, inner, hField, hMem⟩
    | _ =>
      obtain ⟨rfl, rfl⟩ := Prod.mk.inj (List.mem_singleton.mp hMem)
      exact .inl ⟨hField, nofun⟩
  · rintro (⟨hField, hPlain⟩ | ⟨table, inner, hField, hMem⟩)
    · refine ⟨_, hField, ?_⟩
      cases value with
      | table inner => exact absurd rfl (hPlain inner)
      | _ => exact List.mem_singleton_self _
    · exact ⟨_, hField, hMem⟩

theorem direct_flatten_sublist (fields : Toml.Fields) :
    (Toml.direct name (flatten fields)).Sublist (Toml.assignedIn name fields) := by
  induction fields with
  | nil => exact List.Sublist.refl _
  | cons field fields ih =>
    obtain ⟨key, value⟩ := field
    -- a table hands on what it assigns itself, any other value its own assignment
    rw [flatten, List.flatMap_cons, Toml.direct_append, Toml.assignedIn, ← List.append_assoc]
    refine List.Sublist.append ?_ ih
    cases value with
    | table inner =>
      exact (Toml.direct_sublist_assignedIn inner).trans (List.sublist_append_right _ _)
    | _ =>
      rw [Toml.direct_cons]
      exact (List.Sublist.refl _).append (List.nil_sublist _)

/-- What is assigned once is either reached or not, and nothing else is. -/
theorem direct_flatten_of_assigned (h : Toml.assignedIn name fields = [value]) :
    Toml.direct name (flatten fields) = [value] ∧ Reaches name value fields ∨
      Toml.direct name (flatten fields) = [] ∧ ¬ Reaches name value fields := by
  have hSublist : (Toml.direct name (flatten fields)).Sublist [value] :=
    h ▸ direct_flatten_sublist fields
  rw [List.sublist_singleton] at hSublist
  rw [← mem_direct_flatten_iff]
  obtain hNone | hOnce := hSublist
  · exact .inr ⟨hNone, by rw [hNone]; exact List.not_mem_nil⟩
  · exact .inl ⟨hOnce, by rw [hOnce]; exact List.mem_singleton_self value⟩

end Sources

section Load

variable {tree : FileTree} {cwd project : Path} {env : Environment} {given : Option Path}
  {s : Settings}

theorem exists_fields_of_load (h : load tree cwd env given project = .ok s) :
    ∃ fields, readFile tree cwd (given.getD (fileOf project)) = .ok fields ∧
      ofDocument env fields = .ok s := by
  have hFrom : loadFrom tree cwd env (given.getD (fileOf project)) = .ok s := by
    cases given with
    | none => exact h
    | some path =>
      obtain ⟨present, -, h⟩ := Except.bind_eq_ok_iff.mp h
      cases present
      · cases h
      · exact h
  obtain ⟨fields, hFields, hSettings⟩ := Except.bind_eq_ok_iff.mp hFrom
  exact ⟨fields, hFields, Except.mapError_eq_ok_iff.mp hSettings⟩

/-- Each setting is that of the last variable for it. Without one it is that of the last assignment
that is reached in the document, or the default. So a key that is assigned once gives the setting
exactly if the assignment is at the top or in a table there. -/
theorem takes_of_load (h : load tree cwd env given project = .ok s) :
    ∃ fields, readFile tree cwd (given.getD (fileOf project)) = .ok fields ∧
      ∀ name ∈ names,
        (∀ before word text after, env.variables = before ++ (word, text) :: after →
          IsVariable name word → (∀ later ∈ after, ¬ IsVariable name later.1) →
          s.Takes env name (some (.string text))) ∧
        ((∀ v ∈ env.variables, ¬ IsVariable name v.1) →
          s.Takes env name (Toml.direct name (flatten fields)).getLast? ∧
          ∀ value, Toml.assignedIn name fields = [value] →
            (Reaches name value fields → s.Takes env name (some value)) ∧
            (¬ Reaches name value fields → s.Takes env name none)) := by
  obtain ⟨fields, hFields, hSettings⟩ := exists_fields_of_load h
  refine ⟨fields, hFields, fun name hName => ?_⟩
  have hTakes := takes_of_ofAssignments hSettings hName
  rw [get?_assignments] at hTakes
  constructor
  · intro before word text after hVariables hWord hLast
    rwa [hVariables, overrides_append, Toml.direct_append,
      direct_overrides_of_variable hName hWord, direct_overrides_of_none hLast,
      ← List.append_assoc, List.getLast?_concat] at hTakes
  · intro hNone
    rw [direct_overrides_of_none hNone, List.append_nil] at hTakes
    refine ⟨hTakes, fun value hOnce => ?_⟩
    obtain ⟨hDirect, hReached⟩ | ⟨hDirect, hLost⟩ := direct_flatten_of_assigned hOnce
    · rw [hDirect] at hTakes
      exact ⟨fun _ => hTakes, fun hNot => absurd hReached hNot⟩
    · rw [hDirect] at hTakes
      exact ⟨fun hReached => absurd hReached hLost, fun _ => hTakes⟩

theorem load_project_of_fields {fields : Toml.Fields}
    (hFields : readFile tree cwd (fileOf project) = .ok fields)
    (hSettings : ofDocument env fields = .ok s) : load tree cwd env none project = .ok s := by
  rw [load, loadFrom, hFields]
  exact Except.mapError_eq_ok_iff.mpr hSettings

/-- A file tree with the settings file of a project and nothing else. -/
def treeOf (text : String) : FileTree :=
  { entries := Table.ofList [(["p"], .directory), (["p", ".attractor"], .directory),
    (["p", ".attractor", "config.toml"], .file (bytesOfText text))] }

theorem readFile_treeOf {text : String} {fields : Toml.Fields}
    (hBytes : (treeOf text).readBytes ⟨1, ["p"]⟩ (fileOf ⟨1, ["p"]⟩) = .ok (bytesOfText text))
    (hText : Text.Utf8.decode (bytesOfText text) = .ok text.toList)
    (hRead : Toml.read text = .ok fields) :
    readFile (treeOf text) ⟨1, ["p"]⟩ (fileOf ⟨1, ["p"]⟩) = .ok fields := by
  have hString : Toml.read (String.ofList text.toList) = .ok fields := by
    rw [String.ofList_toList, hRead]
  rw [readFile, FileTree.isFile_of_readBytes hBytes, hBytes]
  simp only [Except.mapError, bind, Except.bind, if_true, hText, hString]

/-- Two variables for a setting that a table has as well, and another setting of the table. -/
theorem takes_of_load_at_two_variables :
    ∃ text env s fields, load (treeOf text) ⟨1, ["p"]⟩ env none ⟨1, ["p"]⟩ = .ok s ∧
      readFile (treeOf text) ⟨1, ["p"]⟩ (fileOf ⟨1, ["p"]⟩) = .ok fields ∧
      env.variables = [("ATTRACTOR_LOG_LEVEL", "debug")] ++
        ("ATTRACTOR_Log_Level", " warn ") :: [("HOME", "/h")] ∧
      IsVariable "log_level" "ATTRACTOR_Log_Level" ∧ ¬ IsVariable "log_level" "HOME" ∧
      Toml.assignedIn "log_level" fields = [.string "ERROR"] ∧
      s.Takes env "log_level" (some (.string " warn ")) ∧
      (∀ v ∈ env.variables, ¬ IsVariable "home_dir" v.1) ∧
      Toml.assignedIn "home_dir" fields = [.string "~/x"] ∧
      Reaches "home_dir" (.string "~/x") fields ∧
      s.Takes env "home_dir" (some (.string "~/x")) := by
  obtain ⟨env, hEnv⟩ : ∃ env : Environment, env = { home := ⟨1, ["h"]⟩, «variables» :=
      [("ATTRACTOR_LOG_LEVEL", "debug"), ("ATTRACTOR_Log_Level", " warn "), ("HOME", "/h")] } :=
    ⟨_, rfl⟩
  obtain ⟨fields, hEq⟩ : ∃ fields : Toml.Fields, fields =
      [("general", .table [("log_level", .string "ERROR"), ("home_dir", .string "~/x")])] :=
    ⟨_, rfl⟩
  have hFields : readFile (treeOf "[general]\nlog_level = \"ERROR\"\nhome_dir = \"~/x\"\n")
      ⟨1, ["p"]⟩ (fileOf ⟨1, ["p"]⟩) = .ok fields := by
    refine readFile_treeOf (by decide +kernel) (by decide +kernel) ?_
    rw [hEq]
    cbv
  have hSettings : ofDocument env fields = .ok ⟨.warning, none, some ⟨1, ["h", "x"]⟩, none⟩ := by
    rw [hEq, hEnv]
    decide +kernel
  have hVariables : env.variables = [("ATTRACTOR_LOG_LEVEL", "debug")] ++
      ("ATTRACTOR_Log_Level", " warn ") :: [("HOME", "/h")] := by
    rw [hEnv]
    rfl
  have hLevel : IsVariable "log_level" "ATTRACTOR_Log_Level" := by decide
  have hOther : ¬ IsVariable "log_level" "HOME" := by decide
  have hNone : ∀ v ∈ env.variables, ¬ IsVariable "home_dir" v.1 := by
    rw [hVariables]
    decide
  have hOnce : Toml.assignedIn "home_dir" fields = [.string "~/x"] := by
    rw [hEq]
    rfl
  have hReached : Reaches "home_dir" (.string "~/x") fields := by
    rw [hEq]
    exact .inr ⟨_, _, List.mem_cons_self, by simp⟩
  have hLoad := load_project_of_fields hFields hSettings
  obtain ⟨found, hFound, hLaw⟩ := takes_of_load hLoad
  cases hFields.symm.trans hFound
  refine ⟨_, env, _, fields, hLoad, hFields, hVariables, hLevel, hOther, by rw [hEq]; rfl, ?_, hNone,
    hOnce, hReached, ?_⟩
  · exact (hLaw "log_level" (by decide)).1 _ _ _ _ hVariables hLevel (by simpa using hOther)
  · exact (((hLaw "home_dir" (by decide)).2 hNone).2 _ hOnce).1 hReached

/-- A key in a table within a table is not found. -/
theorem exists_setting_not_found :
    ∃ text env s fields, load (treeOf text) ⟨1, ["p"]⟩ env none ⟨1, ["p"]⟩ = .ok s ∧
      readFile (treeOf text) ⟨1, ["p"]⟩ (fileOf ⟨1, ["p"]⟩) = .ok fields ∧
      env.variables = [] ∧ Toml.assignedIn "log_level" fields = [.string "DEBUG"] ∧
      ¬ s.Takes env "log_level" (some (.string "DEBUG")) := by
  obtain ⟨fields, hEq⟩ : ∃ fields : Toml.Fields, fields =
      [("general", .table [("logging", .table [("log_level", .string "DEBUG")])])] := ⟨_, rfl⟩
  have hFields : readFile (treeOf "[general.logging]\nlog_level = \"DEBUG\"\n") ⟨1, ["p"]⟩
      (fileOf ⟨1, ["p"]⟩) = .ok fields := by
    refine readFile_treeOf (by decide +kernel) (by decide +kernel) ?_
    rw [hEq]
    cbv
  have hSettings : ofDocument { home := ⟨1, ["h"]⟩ } fields = .ok {} := by
    rw [hEq]
    decide +kernel
  refine ⟨_, _, _, fields, load_project_of_fields hFields hSettings, hFields, rfl,
    by rw [hEq]; rfl, ?_⟩
  intro hTakes
  cases hTakes with
  | level h =>
    revert h
    decide +kernel
  | path hName => simp [paths] at hName

end Load

end Settings

end Workflow
