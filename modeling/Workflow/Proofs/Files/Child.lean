import Workflow.Proofs.Except
import Workflow.Proofs.Table
import Workflow.Files.Real

/-!
# What lies in a directory

A path below a directory is followed as far as the directory, and then by its last name with the
links that are left. So a directory in which something is found by a name is found itself, and the
name is listed in it. Where a path leads does not depend on the order in which directories list
their names.
-/

namespace Workflow

namespace Path

variable {p : Path} {name : String}

theorem hasNull_child : (p.child name).hasNull = (p.hasNull || name.toList.contains '\x00') := by
  simp [hasNull, child]

theorem name_child (p : Path) (name : String) : (p.child name).name = name := by
  simp [child, Path.name]

theorem child_inj {p q : Path} {name name' : String} :
    p.child name = q.child name' ↔ p = q ∧ name = name' := by
  cases p
  cases q
  simp [child, and_assoc]

theorem utf8ByteSize_intercalate_le (separator : String) (parts : List String) (last : String) :
    (separator.intercalate parts).utf8ByteSize ≤
      (separator.intercalate (parts ++ [last])).utf8ByteSize := by
  induction parts with
  | nil => simp
  | cons part parts ih =>
    cases parts with
    | nil => simp [String.intercalate_cons_cons]; omega
    | cons next parts =>
      simp only [List.cons_append, String.intercalate_cons_cons, String.utf8ByteSize_append] at ih ⊢
      omega

/-- A path is not longer than one below it. -/
theorem utf8ByteSize_text_le (h : p.isAbsolute) :
    p.text.utf8ByteSize ≤ (p.child name).text.utf8ByteSize := by
  have hSlashes : p.slashes ≠ 0 := by simpa [isAbsolute] using h
  simp only [text, child, hSlashes, if_false, String.utf8ByteSize_append]
  exact Nat.add_le_add_left (utf8ByteSize_intercalate_le "/" p.parts name) _

end Path

namespace FileTree

variable {tree : FileTree} {here place : Location} {names names' : List String}
  {name : String} {cwd directory path : Path} {entry : Entry} {through : Bool} {left rest : Nat}

section Walk

variable {onLink onLink' : Location → String → List String → Except FileFault (Location × Nat)}
  {next : Location × Nat → Except FileFault (Location × Nat)}

/-- Of names in two parts the first ones are followed as if the others were not there, with a link
at their end as one on the way. -/
theorem walk_append (hNames : names' ≠ [])
    (hLink : ∀ here target names,
      onLink here target (names ++ names') = onLink' here target names >>= next)
    (hEnd : ∀ here, tree.walk through left onLink here names' = next (here, left)) :
    tree.walk through left onLink here (names ++ names') =
      tree.walk true left onLink' here names >>= next := by
  induction names generalizing here with
  | nil => exact hEnd here
  | cons name names ih =>
    have hMore : (names ++ names').isEmpty = false := by simp [hNames]
    rw [List.cons_append, walk, walk]
    cases tree.entry? here with
    | none => rfl
    | some entry =>
      cases entry with
      | file bytes => rfl
      | link target => rfl
      | directory =>
        simp only [ih, hMore, Bool.not_false, Bool.or_true, Bool.true_or, if_true]
        split_ifs
        · rfl
        · rfl
        · rfl
        · rfl
        · rfl
        · split
          · exact hLink _ _ _
          · rfl

/-- A name is followed in a directory, and unless there is a link it leads to its own location. -/
theorem of_walk_name (hName : name ∉ ["", ".", ".."])
    (h : tree.walk through left onLink here [name] = .ok (place, rest)) :
    tree.entry? here = some .directory ∧
      ((∃ target, tree.entry? (here ++ [name]) = some (.link target)) ∨ here ++ [name] = place) := by
  simp only [List.mem_cons, List.not_mem_nil, or_false, not_or] at hName
  rw [walk] at h
  split at h
  · cases h
  · next hHere =>
    refine ⟨hHere, ?_⟩
    simp only [hName, if_false] at h
    split at h
    · cases h
    · split at h
      · cases h
      · split at h
        · next target hTarget => exact .inl ⟨target, hTarget⟩
        · exact .inr (Prod.mk.inj (Except.ok.inj h)).1
  · cases h

theorem walk_name (hHere : tree.entry? here = some .directory)
    (hSearch : (tree.rightsAt here).search) (hName : name ∉ ["", ".", ".."])
    (hShort : name.utf8ByteSize ≤ nameLimit)
    (hPlain : ∀ target, tree.entry? (here ++ [name]) ≠ some (.link target)) :
    tree.walk through left onLink here [name] = .ok (here ++ [name], left) := by
  simp only [List.mem_cons, List.not_mem_nil, or_false, not_or] at hName
  rw [walk, hHere]
  -- that there is no link, `hPlain`, decides what is done with the entry
  simp only [hName, hSearch, Nat.not_lt.mpr hShort, if_false, Bool.not_true, Bool.false_eq_true]
  rfl

end Walk

theorem follow_append (hNames : names' ≠ []) :
    tree.follow through left here (names ++ names') =
      tree.follow true left here names >>= fun reached =>
        tree.follow through reached.2 reached.1 names' := by
  induction left generalizing here names with
  | zero => exact walk_append hNames (fun _ _ _ => rfl) fun _ => rfl
  | succ left ih =>
    refine walk_append hNames (fun here target names => ?_) fun _ => rfl
    rw [← List.append_assoc]
    exact ih

theorem of_follow_name (hName : name ∉ ["", ".", ".."])
    (h : tree.follow through left here [name] = .ok (place, rest)) :
    tree.entry? here = some .directory ∧
      ((∃ target, tree.entry? (here ++ [name]) = some (.link target)) ∨ here ++ [name] = place) := by
  cases left <;> exact of_walk_name hName h

theorem locate_eq_ok_iff (hAbs : path.isAbsolute) :
    tree.locate through cwd path = .ok place ↔
      path.hasNull = false ∧ path.text.utf8ByteSize ≤ pathLimit ∧
        ∃ rest, tree.follow through linkLimit [] path.parts = .ok (place, rest) := by
  have hNames : path ≠ ⟨0, []⟩ := by
    rintro rfl
    cases hAbs
  simp only [locate, hAbs, hNames, if_true, if_false]
  split
  · next hNull => exact iff_of_false nofun fun h => absurd (hNull.symm.trans h.1) nofun
  · next hNull =>
    rw [and_iff_right (Bool.not_eq_true _ ▸ hNull)]
    split
    · next hLong => exact iff_of_false nofun fun h => absurd h.1 (Nat.not_le.mpr hLong)
    · next hShort =>
      rw [and_iff_right (Nat.not_lt.mp hShort), Except.map_eq_ok_iff]
      constructor
      · rintro ⟨⟨_, rest⟩, hFollow, rfl⟩
        exact ⟨rest, hFollow⟩
      · rintro ⟨rest, hFollow⟩
        exact ⟨_, hFollow, rfl⟩

theorem find_eq_ok_iff :
    tree.find cwd path = .ok (place, entry) ↔
      tree.locate true cwd path = .ok place ∧ tree.entry? place = some entry := by
  rw [find, Except.bind_eq_ok_iff]
  constructor
  · rintro ⟨found, hLocate, h⟩
    cases hEntry : tree.entry? found with
    | none => simp [hEntry] at h
    | some here =>
      simp only [hEntry, Except.ok.injEq, Prod.mk.injEq] at h
      exact ⟨h.1 ▸ hLocate, by rw [← h.1, hEntry, h.2]⟩
  · rintro ⟨hLocate, hEntry⟩
    exact ⟨place, hLocate, by rw [hEntry]⟩

/-- What is found by a name in a directory has an entry there. -/
theorem exists_entry?_of_find_child (hAbs : directory.isAbsolute) (hName : name ∉ ["", ".", ".."])
    (h : tree.find cwd (directory.child name) = .ok (place, entry)) :
    ∃ above, tree.find cwd directory = .ok (above, .directory) ∧
      ∃ found, tree.entry? (above ++ [name]) = some found := by
  obtain ⟨hLocate, hEntry⟩ := find_eq_ok_iff.mp h
  have hChild : (directory.child name).isAbsolute := hAbs
  obtain ⟨hNull, hLength, rest, hFollow⟩ := (locate_eq_ok_iff hChild).mp hLocate
  have hSplit : tree.follow true linkLimit [] (directory.parts ++ [name]) = .ok (place, rest) :=
    hFollow
  rw [follow_append (List.cons_ne_nil _ _), Except.bind_eq_ok_iff] at hSplit
  obtain ⟨⟨above, left⟩, hAbove, hLast⟩ := hSplit
  obtain ⟨hDirectory, hFound⟩ := of_follow_name hName hLast
  rw [Path.hasNull_child, Bool.or_eq_false_iff] at hNull
  have hShort := Nat.le_trans (Path.utf8ByteSize_text_le hAbs) hLength
  refine ⟨above, find_eq_ok_iff.mpr
    ⟨(locate_eq_ok_iff hAbs).mpr ⟨hNull.1, hShort, left, hAbove⟩, hDirectory⟩, ?_⟩
  obtain ⟨target, hTarget⟩ | rfl := hFound
  · exact ⟨_, hTarget⟩
  · exact ⟨entry, hEntry⟩

/-- In a directory that may be searched, what is no link is found by its name. -/
theorem find_child_eq_ok (hAbs : directory.isAbsolute) (hName : name ∉ ["", ".", ".."])
    (hFound : tree.find cwd directory = .ok (place, .directory))
    (hSearch : (tree.rightsAt place).search) (hNull : name.toList.contains '\x00' = false)
    (hShort : name.utf8ByteSize ≤ nameLimit)
    (hLength : (directory.child name).text.utf8ByteSize ≤ pathLimit)
    (hEntry : tree.entry? (place ++ [name]) = some entry) (hPlain : ∀ target, entry ≠ .link target) :
    tree.find cwd (directory.child name) = .ok (place ++ [name], entry) := by
  obtain ⟨hLocate, hDirectory⟩ := find_eq_ok_iff.mp hFound
  obtain ⟨hAboveNull, -, left, hFollow⟩ := (locate_eq_ok_iff hAbs).mp hLocate
  have hChildNull : (directory.child name).hasNull = false := by
    rw [Path.hasNull_child, hAboveNull, hNull]
    rfl
  have hNoLink : ∀ target, tree.entry? (place ++ [name]) ≠ some (.link target) :=
    fun target hTarget => hPlain target (Option.some.inj (hEntry.symm.trans hTarget))
  have hLast : tree.follow true left place [name] = .ok (place ++ [name], left) := by
    cases left <;> exact walk_name hDirectory hSearch hName hShort hNoLink
  have hParts : (directory.child name).parts = directory.parts ++ [name] := rfl
  have hChild : (directory.child name).isAbsolute := hAbs
  refine find_eq_ok_iff.mpr
    ⟨(locate_eq_ok_iff hChild).mpr ⟨hChildNull, hLength, left, ?_⟩, hEntry⟩
  rw [hParts, follow_append (List.cons_ne_nil _ _), hFollow]
  exact hLast

theorem nameBelow?_eq_some_iff {other : Location} :
    nameBelow? place other = some name ↔ other = place ++ [name] := by
  rw [nameBelow?]
  split
  · next hPlace =>
    rw [← hPlace]
    constructor
    · intro hLast
      rw [List.dropLast_append_getLast? name hLast]
    · intro h
      rw [h, List.getLast?_concat]
  · next hPlace =>
    refine iff_of_false nofun fun h => hPlace ?_
    rw [h, List.dropLast_concat]

theorem entry?_below (tree : FileTree) (place : Location) (name : String) :
    tree.entry? (place ++ [name]) = tree.entries.get? (place ++ [name]) :=
  if_neg (by simp)

theorem mem_children_iff :
    (name, entry) ∈ tree.children place ↔ tree.entry? (place ++ [name]) = some entry := by
  rw [entry?_below, Table.get?_eq_some_iff, children, List.mem_filterMap]
  simp only [Option.map_eq_some_iff, nameBelow?_eq_some_iff, Prod.mk.injEq]
  constructor
  · rintro ⟨⟨other, found⟩, hMem, _, rfl, rfl, rfl⟩
    exact hMem
  · exact fun hMem => ⟨_, hMem, name, rfl, rfl, rfl⟩

theorem isFile_eq_true_iff :
    tree.isFile cwd path = .ok true ↔
      ∃ place bytes, tree.find cwd path = .ok (place, .file bytes) := by
  rw [isFile, test]
  split
  · next place entry hFind =>
    cases entry <;> simp [Entry.isFile, hFind]
  · next hFind => simp [hFind]
  · next hFind => simp [hFind]
  · next hFind => simp [hFind]

theorem isFile_of_readBytes {bytes : List UInt8} (h : tree.readBytes cwd path = .ok bytes) :
    tree.isFile cwd path = .ok true := by
  rw [readBytes] at h
  split at h
  · cases h
  · next place entry hFind =>
    rw [isFile_eq_true_iff]
    split at h
    · cases h
    · cases entry with
      | file bytes => exact ⟨place, bytes, hFind⟩
      | directory => cases h
      | link target => cases h

section Listing

variable {tree' : FileTree}

/-- Two trees with the same entries and rights. Their directories may list names in another
order. -/
structure SameEntries (tree tree' : FileTree) : Prop where
  perm : tree.entries.entries.Perm tree'.entries.entries
  rightsAt_eq : tree.rightsAt = tree'.rightsAt

namespace SameEntries

theorem entry?_eq (h : tree.SameEntries tree') : tree.entry? = tree'.entry? := by
  have hGet (place : Location) : tree.entries.get? place = tree'.entries.get? place :=
    Option.ext fun _ => by rw [Table.get?_eq_some_iff, Table.get?_eq_some_iff, h.perm.mem_iff]
  funext place
  unfold FileTree.entry?
  rw [hGet]

theorem walk_eq (h : tree.SameEntries tree') : tree.walk = tree'.walk := by
  funext through left onLink here names
  induction names generalizing here with
  | nil => rfl
  | cons name names ih => simp only [walk, ih, h.entry?_eq, h.rightsAt_eq]

theorem follow_eq (h : tree.SameEntries tree') : tree.follow = tree'.follow := by
  funext through left
  induction left with
  | zero => rw [follow, follow, h.walk_eq]
  | succ left ih => rw [follow, follow, ih, h.walk_eq]

theorem locate_eq (h : tree.SameEntries tree') : tree.locate = tree'.locate := by
  funext through cwd path
  rw [locate, locate, h.follow_eq]

theorem find_eq (h : tree.SameEntries tree') : tree.find = tree'.find := by
  funext cwd path
  rw [find, find, h.locate_eq, h.entry?_eq]

theorem isFile_eq (h : tree.SameEntries tree') : tree.isFile = tree'.isFile := by
  funext cwd path
  rw [isFile, isFile, test, test, h.find_eq]

theorem readBytes_eq (h : tree.SameEntries tree') : tree.readBytes = tree'.readBytes := by
  funext cwd path
  rw [readBytes, readBytes, h.find_eq, h.rightsAt_eq]

theorem openNames_eq (h : tree.SameEntries tree') : tree.openNames = tree'.openNames := by
  funext cwd onLink pending here names
  have hLink : tree.linkAt? = tree'.linkAt? := by
    funext cwd path
    rw [linkAt?, linkAt?, h.locate_eq, h.entry?_eq]
  induction names generalizing here with
  | nil => rfl
  | cons name names ih => simp only [openNames, ih, hLink]

theorem openLinks_eq (h : tree.SameEntries tree') : tree.openLinks = tree'.openLinks := by
  funext cwd room
  induction room with
  | zero => rw [openLinks, openLinks, h.openNames_eq]
  | succ room ih => rw [openLinks, openLinks, ih, h.openNames_eq]

theorem realPath_eq (h : tree.SameEntries tree') : tree.realPath = tree'.realPath := by
  funext cwd path
  rw [realPath, realPath, h.openLinks_eq, h.locate_eq]

theorem children_perm (h : tree.SameEntries tree') :
    (tree.children place).Perm (tree'.children place) :=
  h.perm.filterMap _

end SameEntries

end Listing

end FileTree

end Workflow
