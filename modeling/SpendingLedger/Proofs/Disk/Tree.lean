import SpendingLedger.Proofs.Disk.Replace

/-!
# The tree of files and directories

Whatever is on a disk stands in directories, and its path is not too long to be named.  The changes
of a disk keep it so: a directory is made below those that are there, a file is opened only in a
directory, and nothing is taken away from above something else.  Hence the replacement of a file
leads from a tree to a tree, wherever it stops.

## Main definitions

* `Disk.IsTree` — the disks on which everything stands in directories.

## Main results

* `Disk.IsTree.set`, `Disk.IsTree.erase` — single changes.
* `Disk.isTree_replaceFile` — **the replacement of a file keeps a disk a tree.**
* `Disk.IsTree.hasDirectory_parent` — where something is there, so is its directory.
-/

namespace SpendingLedger

namespace Location

/-- What is above a location is its directory or above that. -/
theorem isPrefix_parent {l o : Location} (h : o <+: l) (hne : o ≠ l) : o <+: l.parent := by
  rcases List.eq_nil_or_concat l with rfl | ⟨directory, name, rfl⟩
  · exact h
  · rw [List.concat_eq_append] at h hne ⊢
    rw [parent, List.dropLast_concat]
    exact (List.prefix_concat_iff.1 h).resolve_left hne

theorem parent_isPrefix (l : Location) : l.parent <+: l := List.dropLast_prefix l

theorem parent_ne {l : Location} (hl : l ≠ []) : l.parent ≠ l := by
  intro heq
  have hlength : l.dropLast.length = l.length := congrArg List.length heq
  have hpos : 0 < l.length := List.length_pos_iff.2 hl
  rw [List.length_dropLast] at hlength
  omega

/-- The path of what is above a location is no longer. -/
theorem isLongPath_of_isPrefix {l o : Location} (h : o <+: l) (hl : isLongPath l.text = false) :
    isLongPath o.text = false := by
  obtain ⟨rest, rfl⟩ := h
  have hle : (String.intercalate "/" o).utf8ByteSize ≤
      (String.intercalate "/" (o ++ rest)).utf8ByteSize := by
    by_cases ho : o = []
    · subst ho
      exact Nat.zero_le _
    by_cases hrest : rest = []
    · exact Nat.le_of_eq (by rw [hrest, List.append_nil])
    · rw [String.intercalate_append_of_ne_nil ho hrest, String.utf8ByteSize_append,
        String.utf8ByteSize_append]
      omega
  simp only [isLongPath, text, decide_eq_false_iff_not, String.utf8ByteSize_append] at hl ⊢
  omega

/-- The path of a file is no longer than that of the file beside it with an ending. -/
theorem isLongPath_of_withEnding {l : Location} {ending : String} (hl : l ≠ [])
    (h : isLongPath (l.withEnding ending).text = false) : isLongPath l.text = false := by
  obtain ⟨directory, name, rfl⟩ := (List.eq_nil_or_concat l).resolve_left hl
  have hname : ∀ n : String, (String.intercalate "/" (directory ++ [n])).utf8ByteSize =
      (String.intercalate "/" (directory ++ [""])).utf8ByteSize + n.utf8ByteSize := by
    intro n
    by_cases hd : directory = []
    · simp [hd]
    · rw [String.intercalate_append_of_ne_nil hd (by simp),
        String.intercalate_append_of_ne_nil hd (by simp)]
      simp [String.utf8ByteSize_append]
  have hsize := hname name
  have hsize' := hname (name ++ ending)
  rw [String.utf8ByteSize_append] at hsize'
  simp only [isLongPath, text, withEnding, List.concat_eq_append, List.dropLast_concat,
    List.getLast?_concat, Option.getD_some, decide_eq_false_iff_not,
    String.utf8ByteSize_append] at h ⊢
  omega

end Location

namespace Disk

/-- Whether everything stands in directories, under paths that are not too long. -/
structure IsTree (d : Disk) : Prop where
  above : ∀ l, d.contains l = true → ∀ o, o <+: l → o ≠ l → d.node? o = some .directory
  short : ∀ l, d.contains l = true → isLongPath l.text = false

theorem contains_iff_mem {d : Disk} {l : Location} :
    d.contains l = true ↔ l = [] ∨ ∃ e ∈ d.entries, e.1 = l := by
  unfold contains node?
  by_cases hl : l = []
  · exact iff_of_true (by rw [if_pos hl]; rfl) (Or.inl hl)
  · rw [if_neg hl, List.lookup_isSome_iff, or_iff_right hl]
    exact exists_congr fun e => and_congr_right fun _ => by rw [beq_iff_eq, eq_comm]

/-- It is enough to look at the entries. -/
theorem isTree_iff {d : Disk} :
    d.IsTree ↔ ∀ e ∈ d.entries, isLongPath e.1.text = false ∧
      ∀ n ∈ List.range e.1.length, d.node? (e.1.take n) = some .directory := by
  constructor
  · intro hd e he
    have hthere : d.contains e.1 = true := contains_iff_mem.2 (Or.inr ⟨e, he, rfl⟩)
    refine ⟨hd.short _ hthere, fun n hn => hd.above _ hthere _ (List.take_prefix n e.1) ?_⟩
    intro hsame
    have hlength := congrArg List.length hsame
    rw [List.length_take] at hlength
    have := List.mem_range.1 hn
    omega
  · intro h
    constructor
    · intro l hl o ho hne
      rcases contains_iff_mem.1 hl with rfl | ⟨e, he, rfl⟩
      · exact absurd (List.prefix_nil.1 ho) hne
      · have hlt : o.length < e.1.length :=
          Nat.lt_of_le_of_ne ho.length_le fun hlength => hne (ho.eq_of_length hlength)
        rw [List.prefix_iff_eq_take.1 ho]
        exact (h e he).2 _ (List.mem_range.2 hlt)
    · intro l hl
      rcases contains_iff_mem.1 hl with rfl | ⟨e, he, rfl⟩
      · decide
      · exact (h e he).1

instance (d : Disk) : Decidable d.IsTree := decidable_of_iff _ isTree_iff.symm

variable {d : Disk} {l : Location}

/-! ### Single changes -/

/-- A node is put below directories, in the place of a file or of nothing. -/
theorem IsTree.set (hd : d.IsTree) (hl : l ≠ []) {n : Node}
    (habove : ∀ o, o <+: l → o ≠ l → d.node? o = some .directory)
    (hshort : isLongPath l.text = false) (hfree : n = .directory ∨ d.node? l ≠ some .directory) :
    (d.set l n).IsTree := by
  have hcontains : ∀ x, (d.set l n).contains x = true → x = l ∨ d.contains x = true := by
    intro x hx
    rw [contains, node?_set d l x n hl] at hx
    by_cases hxl : x = l
    · exact Or.inl hxl
    · rw [if_neg hxl] at hx
      exact Or.inr hx
  constructor
  · intro x hx o ho hne
    rw [node?_set d l o n hl]
    by_cases hol : o = l
    · -- what is below `l` was there before, so `l` is a directory
      subst hol
      have hthere := (hcontains x hx).resolve_left (Ne.symm hne)
      rcases hfree with rfl | hnot
      · rw [if_pos rfl]
      · exact absurd (hd.above x hthere o ho hne) hnot
    · rw [if_neg hol]
      rcases hcontains x hx with rfl | hthere
      · exact habove o ho hne
      · exact hd.above x hthere o ho hne
  · intro x hx
    rcases hcontains x hx with rfl | hthere
    · exact hshort
    · exact hd.short x hthere

/-- What is no directory is taken away. -/
theorem IsTree.erase (hd : d.IsTree) (hl : l ≠ []) (hnot : d.node? l ≠ some .directory) :
    (d.erase l).IsTree := by
  have hcontains : ∀ x, (d.erase l).contains x = true → d.contains x = true := by
    intro x hx
    rw [contains, node?_erase d l x hl] at hx
    by_cases hxl : x = l
    · rw [if_pos hxl] at hx
      cases hx
    · rw [if_neg hxl] at hx
      exact hx
  constructor
  · intro x hx o ho hne
    have hdirectory := hd.above x (hcontains x hx) o ho hne
    have hol : o ≠ l := by
      rintro rfl
      exact hnot hdirectory
    rw [node?_erase d l o hl, if_neg hol]
    exact hdirectory
  · exact fun x hx => hd.short x (hcontains x hx)

theorem IsTree.removeFile (hd : d.IsTree) (hl : l ≠ []) : (d.removeFile l).IsTree := by
  unfold Disk.removeFile
  split
  · next c hfile =>
    refine hd.erase hl ?_
    rw [hfile]
    exact fun h => by cases h
  · exact hd

/-! ### Directories -/

/-- Directories are made from the root on, each below the one before. -/
theorem isTree_addDirectories (hshort : isLongPath l.text = false) (m k : Nat) (hd : d.IsTree)
    (hfree : ∀ o, o <+: l → ∀ c, d.node? o ≠ some (.file c))
    (habove : ∀ j < k, d.node? (l.take j) = some .directory) :
    (d.addDirectories ((List.range' k m).map l.take)).1.IsTree := by
  -- the directories above the one that is next are there already
  induction m generalizing k d with
  | zero => exact hd
  | succ m ih =>
    have hprefix : l.take k <+: l := List.take_prefix k l
    rw [List.range'_succ, List.map_cons]
    unfold addDirectories
    split
    · next hthere =>
      obtain ⟨n, hn⟩ := contains_iff.1 hthere
      refine ih (k + 1) hd hfree fun j hj => ?_
      rcases Nat.lt_or_eq_of_le (Nat.le_of_lt_succ hj) with hj | rfl
      · exact habove j hj
      · cases n with
        | directory => exact hn
        | file c => exact absurd hn (hfree _ hprefix c)
    next habsent =>
    have hne : l.take k ≠ [] := by
      intro hroot
      rw [hroot] at habsent
      exact habsent (contains_iff.2 ⟨_, node?_nil d⟩)
    have habove' : ∀ o, o <+: l.take k → o ≠ l.take k → d.node? o = some .directory := by
      intro o ho hok
      have hlt : o.length < k := by
        have hlength := Nat.lt_of_le_of_ne ho.length_le fun h => hok (ho.eq_of_length h)
        rw [List.length_take] at hlength
        omega
      rw [List.prefix_iff_eq_take.1 (ho.trans hprefix)]
      exact habove _ hlt
    split
    · exact hd
    split
    · exact hd
    · refine ih (k + 1) (hd.set hne habove' (Location.isLongPath_of_isPrefix hprefix hshort)
        (Or.inl rfl)) (fun o ho c => ?_) fun j hj => ?_
      · rw [node?_set d _ o _ hne]
        split
        · exact fun h => by cases h
        · exact hfree o ho c
      · rw [node?_set d _ _ _ hne]
        split
        · rfl
        · next hother =>
          rcases Nat.lt_or_eq_of_le (Nat.le_of_lt_succ hj) with hj | rfl
          · exact habove j hj
          · exact absurd rfl hother

theorem IsTree.makeDirectory (hd : d.IsTree) (l : Location) : (d.makeDirectory l).1.IsTree := by
  unfold Disk.makeDirectory
  split
  · exact hd
  next hshort =>
  split
  · exact hd
  next hfree =>
  split
  · exact hd
  next hnot =>
  rw [List.range_eq_range']
  refine isTree_addDirectories (by simpa using hshort) _ _ hd (fun o ho c => ?_) fun j hj => ?_
  · by_cases hol : o = l
    · exact hol ▸ hnot c
    · exact not_file_of_not_blocked (by simpa using hfree) ho hol c
  · exact absurd hj (Nat.not_lt_zero j)

/-- A directory that is there with all those above it need not be made. -/
theorem HasDirectory.makeDirectory_eq (h : HasDirectory d l) : d.makeDirectory l = (d, none) := by
  have hpresent : ∀ ls : List Location, (∀ o ∈ ls, o <+: l) → d.addDirectories ls = (d, none) := by
    intro ls hls
    induction ls with
    | nil => rfl
    | cons o ls ih =>
      have hthere : d.contains o = true :=
        contains_iff.2 ⟨_, h.directory o (hls o List.mem_cons_self)⟩
      rw [addDirectories, if_pos hthere, ih fun x hx => hls x (List.mem_cons_of_mem o hx)]
  have hfree : d.blocked l = false := by
    refine blocked_eq_false fun o ho c => ?_
    rw [h.directory o ho]
    exact fun heq => by cases heq
  unfold Disk.makeDirectory
  rw [if_neg (by rw [h.short]; decide), if_neg (by rw [hfree]; decide),
    h.directory l (List.prefix_refl l)]
  exact hpresent _ fun o ho => mem_ancestors.1 ho

/-- Where something is there, so is its directory. -/
theorem IsTree.hasDirectory_parent (hd : d.IsTree) (hl : l ≠ []) (h : d.contains l = true) :
    HasDirectory d l.parent := by
  have hdirectory : ∀ o, o <+: l.parent → d.node? o = some .directory := by
    intro o ho
    refine hd.above l h o (ho.trans l.parent_isPrefix) ?_
    intro hol
    rw [hol] at ho
    have hlength := Nat.le_antisymm l.parent_isPrefix.length_le ho.length_le
    exact Location.parent_ne hl (l.parent_isPrefix.eq_of_length hlength)
  refine ⟨hd.short _ (contains_iff.2 ⟨_, hdirectory _ (List.prefix_refl _)⟩), hdirectory⟩

/-! ### Files -/

/-- A file that is opened stands in directories. -/
theorem IsTree.openFile {d' : Disk} (hd : d.IsTree) (hl : l ≠ []) (h : d.openFile l = .ok d') :
    d'.IsTree ∧ d'.node? l = some (.file (.text "")) := by
  -- whether or not the file was there before, its directory was
  have hparent : HasDirectory d l.parent ∧ d.node? l ≠ some .directory ∧
      isLongPath l.text = false ∧ d' = d.set l (.file (.text "")) := by
    unfold Disk.openFile at h
    split at h
    · cases h
    · cases h
    · cases h
    next hnot hnone hfile =>
    split at h
    · cases h
    next hlong =>
    split at h
    · cases h
    cases h
    rw [Bool.or_eq_true, not_or, Bool.not_eq_true] at hlong
    refine ⟨?_, ?_, hlong.1, rfl⟩
    · cases hself : d.node? l with
      | some n => exact hd.hasDirectory_parent hl (contains_iff.2 ⟨n, hself⟩)
      | none =>
        cases hdirectory : d.node? l.parent with
        | none => exact absurd hdirectory (hnone hself)
        | some n =>
          cases n with
          | file c => exact absurd hdirectory (hfile c hself)
          | directory =>
            have hthere : d.contains l.parent = true := contains_iff.2 ⟨_, hdirectory⟩
            refine ⟨hd.short _ hthere, fun o ho => ?_⟩
            by_cases hop : o = l.parent
            · rw [hop, hdirectory]
            · exact hd.above _ hthere o ho hop
    · exact hnot
  obtain ⟨hdirectory, hfree, hshort, rfl⟩ := hparent
  refine ⟨hd.set hl (fun o ho hne => ?_) hshort (Or.inr hfree), ?_⟩
  · exact hdirectory.directory o (Location.isPrefix_parent ho hne)
  · rw [node?_set d l l _ hl, if_pos rfl]

/-- A file is put in the place of a file. -/
theorem IsTree.set_file (hd : d.IsTree) (hl : l ≠ []) {c : Content}
    (h : d.node? l = some (.file c)) (c' : Content) : (d.set l (.file c')).IsTree := by
  have hthere : d.contains l = true := contains_iff.2 ⟨_, h⟩
  refine hd.set hl (hd.above l hthere) (hd.short l hthere) (Or.inr ?_)
  rw [h]
  exact fun heq => by cases heq

theorem IsTree.writeFile (hd : d.IsTree) (hl : l ≠ []) (text : String) :
    (d.writeFile l text).1.IsTree := by
  unfold Disk.writeFile
  split
  · exact hd
  · next opened hopen =>
    obtain ⟨hopened, hfile⟩ := hd.openFile hl hopen
    split
    · exact hopened.set_file hl hfile _
    · exact hopened.set_file hl hfile _

/-- **The replacement of a file keeps a disk a tree**, wherever it stops. -/
theorem isTree_replaceFile (hd : d.IsTree) (hl : l ≠ []) (text : String) :
    (d.replaceFile l text).1.IsTree := by
  have hdraft := l.withEnding_ne_nil draftEnding
  have hdirectory : (d.withDirectory l).IsTree := hd.makeDirectory l.parent
  have hwritten : (d.withDraft l text).IsTree := hdirectory.writeFile hdraft text
  rcases replaceFile_cases d hl text with ⟨e, -, heq⟩ | ⟨e, heq⟩ | ⟨-, hfree, hfile, heq⟩
  · rw [heq]
    exact hdirectory
  · rw [heq]
    exact hwritten.removeFile hdraft
  · rw [heq]
    have hthere : (d.withDraft l text).contains (l.withEnding draftEnding) = true :=
      contains_iff.2 ⟨_, hfile⟩
    have hnot : (d.withDraft l text).node? (l.withEnding draftEnding) ≠ some .directory := by
      rw [hfile]
      exact fun h => by cases h
    refine (hwritten.erase hdraft hnot).set hl (fun o ho hne => ?_) ?_ (Or.inr ?_)
    · -- the draft stands beside the file, below the same directories
      have habove : o <+: (l.withEnding draftEnding).parent := by
        rw [Location.parent_withEnding]
        exact Location.isPrefix_parent ho hne
      have hod : o ≠ l.withEnding draftEnding := by
        rintro rfl
        exact draft_not_isPrefix_parent hl (Location.isPrefix_parent ho hne)
      rw [node?_erase _ _ _ hdraft, if_neg hod]
      exact hwritten.above _ hthere o (habove.trans (Location.parent_isPrefix _)) hod
    · exact Location.isLongPath_of_withEnding hl (hwritten.short _ hthere)
    · rw [node?_erase _ _ _ hdraft, if_neg (draft_ne hl).symm, node?_withDraft text
        (draft_ne hl).symm, node?_withDirectory (Location.not_isPrefix_parent (Nat.le_refl _) hl)]
      exact hfree

end Disk

end SpendingLedger
