import SpendingLedger.Disk.Tree

/-!
# Replacing a file

A file is replaced by way of a draft beside it.  Whatever happens, the file holds the new text or
what it held before, and nothing else changes but for the draft and directories that are made on the
way.

## Main definitions

* `Disk.HasDirectory` — a directory with all those above it.
* `Disk.CanReplace` — what it takes to replace a file.

## Main results

* `Disk.node?_replaceFile_of_ne` — **other files are left as they are.**
* `Disk.node?_replaceFile` — **a file is replaced as a whole or not at all.**
* `Disk.replaceFile_of_canReplace` — a file is replaced where nothing is in the way.
* `Disk.hasDirectory_of_replaceFile` — the directory of a file that was replaced is there.
-/

namespace SpendingLedger

namespace Location

theorem length_withEnding {l : Location} (hl : l ≠ []) (ending : String) :
    (l.withEnding ending).length = l.length := by
  have hpos : 0 < l.length := List.length_pos_iff.2 hl
  simp only [withEnding, List.length_append, List.length_dropLast, List.length_singleton]
  omega

theorem withEnding_ne_nil (l : Location) (ending : String) : l.withEnding ending ≠ [] := by
  simp [withEnding]

/-- A file with an ending has another name than the file itself. -/
theorem withEnding_ne {l : Location} (hl : l ≠ []) {ending : String} (he : ending ≠ "") :
    l.withEnding ending ≠ l := by
  intro heq
  have hlast : (l.withEnding ending).getLast? = l.getLast? := by rw [heq]
  obtain ⟨name, hname⟩ : ∃ name, l.getLast? = some name := by
    cases h : l.getLast? with
    | none => exact absurd (List.getLast?_eq_none_iff.1 h) hl
    | some name => exact ⟨name, rfl⟩
  rw [withEnding, List.getLast?_concat, hname] at hlast
  have hsame : name ++ ending = name := Option.some.inj hlast
  have hlength : (name ++ ending).toList.length = name.toList.length := by rw [hsame]
  rw [String.toList_append, List.length_append] at hlength
  exact he (String.toList_inj.1 (List.eq_nil_of_length_eq_zero (by omega)))

/-- A file lies deeper than its directory and those above it. -/
theorem not_isPrefix_parent {l o : Location} (h : l.length ≤ o.length) (hl : l ≠ []) :
    ¬o <+: l.parent := by
  intro habove
  have hle := habove.length_le
  have hpos : 0 < l.length := List.length_pos_iff.2 hl
  rw [parent, List.length_dropLast] at hle
  omega

theorem parent_withEnding (l : Location) (ending : String) :
    (l.withEnding ending).parent = l.parent := by
  simp [withEnding, parent]

end Location

namespace Disk

@[simp] theorem hazards_set (d : Disk) (l : Location) (n : Node) :
    (d.set l n).hazards = d.hazards := rfl

@[simp] theorem hazards_erase (d : Disk) (l : Location) : (d.erase l).hazards = d.hazards := rfl

theorem node?_nil (d : Disk) : d.node? [] = some .directory := by
  rw [node?, if_pos rfl]

theorem contains_iff {d : Disk} {l : Location} : d.contains l = true ↔ ∃ n, d.node? l = some n := by
  rw [contains, Option.isSome_iff_exists]

/-! ### Directories -/

@[simp] theorem hazards_addDirectories (d : Disk) (ls : List Location) :
    (d.addDirectories ls).1.hazards = d.hazards := by
  induction ls generalizing d with
  | nil => rfl
  | cons l ls ih =>
    unfold addDirectories
    split
    · exact ih d
    · split
      · rfl
      · split
        · rfl
        · rw [ih, hazards_set]

/-- What is at a location stays there, unless a directory is made where nothing was. -/
theorem node?_addDirectories (d : Disk) (ls : List Location) (o : Location) :
    (d.addDirectories ls).1.node? o = d.node? o ∨
      (o ∈ ls ∧ d.node? o = none ∧ (d.addDirectories ls).1.node? o = some .directory) := by
  induction ls generalizing d with
  | nil => exact Or.inl rfl
  | cons l ls ih =>
    unfold addDirectories
    split
    · rcases ih d with heq | ⟨hmem, hnone, hdirectory⟩
      · exact Or.inl heq
      · exact Or.inr ⟨List.mem_cons_of_mem l hmem, hnone, hdirectory⟩
    next habsent =>
    have hl : l ≠ [] := by
      rintro rfl
      exact habsent (contains_iff.2 ⟨_, node?_nil d⟩)
    split
    · exact Or.inl rfl
    split
    · exact Or.inl rfl
    rcases ih (d.set l .directory) with heq | ⟨hmem, hnone, hdirectory⟩
    · rw [heq, node?_set d l o .directory hl]
      by_cases ho : o = l
      · subst ho
        rw [if_pos rfl]
        have hnone : d.node? o = none := by
          rwa [contains, Bool.not_eq_true, Option.isSome_eq_false_iff, Option.isNone_iff_eq_none]
            at habsent
        exact Or.inr ⟨List.mem_cons_self, hnone, rfl⟩
      · rw [if_neg ho]
        exact Or.inl rfl
    · rw [node?_set d l o .directory hl] at hnone
      by_cases ho : o = l
      · rw [if_pos ho] at hnone
        cases hnone
      · rw [if_neg ho] at hnone
        exact Or.inr ⟨List.mem_cons_of_mem l hmem, hnone, hdirectory⟩

theorem node?_addDirectories_of_some {d : Disk} {o : Location} {n : Node} (h : d.node? o = some n)
    (ls : List Location) : (d.addDirectories ls).1.node? o = some n := by
  rcases node?_addDirectories d ls o with heq | ⟨-, hnone, -⟩
  · rw [heq, h]
  · rw [h] at hnone
    cases hnone

/-- After a success there is something at each of the locations. -/
theorem contains_addDirectories {d : Disk} {ls : List Location}
    (h : (d.addDirectories ls).2 = none) {o : Location} (ho : o ∈ ls) :
    (d.addDirectories ls).1.contains o = true := by
  induction ls generalizing d with
  | nil => exact absurd ho List.not_mem_nil
  | cons l ls ih =>
    unfold addDirectories at h ⊢
    split at h
    · next hpresent =>
      rw [if_pos hpresent]
      rcases List.mem_cons.1 ho with rfl | ho
      · obtain ⟨n, hn⟩ := contains_iff.1 hpresent
        exact contains_iff.2 ⟨n, node?_addDirectories_of_some hn ls⟩
      · exact ih h ho
    · next habsent =>
      rw [if_neg habsent]
      have hl : l ≠ [] := by
        rintro rfl
        exact habsent (contains_iff.2 ⟨_, node?_nil d⟩)
      split at h
      · cases h
      split at h
      · cases h
      next hname hdevice =>
      rw [if_neg hname, if_neg hdevice]
      rcases List.mem_cons.1 ho with rfl | ho
      · have hset : (d.set o .directory).node? o = some .directory := by
          rw [node?_set d o o .directory hl, if_pos rfl]
        exact contains_iff.2 ⟨_, node?_addDirectories_of_some hset ls⟩
      · exact ih h ho

/-- Without hazards and long names directories can be made. -/
theorem addDirectories_eq_none {d : Disk} (hd : d.hazards = []) {ls : List Location}
    (hls : ∀ l ∈ ls, isLongName (l.getLast?.getD "") = false) : (d.addDirectories ls).2 = none := by
  induction ls generalizing d with
  | nil => rfl
  | cons l ls ih =>
    have hname : ¬isLongName (l.getLast?.getD "") = true := by
      rw [hls l List.mem_cons_self]
      decide
    have hrest : ∀ o ∈ ls, isLongName (o.getLast?.getD "") = false :=
      fun o ho => hls o (List.mem_cons_of_mem l ho)
    have hdevice : Hazard.makeDirectory l ∉ d.hazards := by
      rw [hd]
      exact List.not_mem_nil
    unfold addDirectories
    split
    · exact ih hd hrest
    · exact ih (by rw [hazards_set, hd]) hrest

/-- The locations on the way to `l`. -/
theorem mem_ancestors {l o : Location} :
    o ∈ (List.range (l.length + 1)).map l.take ↔ o <+: l := by
  constructor
  · intro hmem
    obtain ⟨n, -, rfl⟩ := List.mem_map.1 hmem
    exact List.take_prefix n l
  · intro habove
    refine List.mem_map.2 ⟨o.length, ?_, ?_⟩
    · exact List.mem_range.2 (Nat.lt_succ_of_le habove.length_le)
    · exact (List.prefix_iff_eq_take.1 habove).symm

/-- Whether a directory and all those above it are there, under a path that is not too long. -/
structure HasDirectory (d : Disk) (l : Location) : Prop where
  short : isLongPath l.text = false
  directory : ∀ o, o <+: l → d.node? o = some .directory

theorem not_file_of_not_blocked {d : Disk} {l o : Location} (h : d.blocked l = false)
    (ho : o <+: l) (hne : o ≠ l) (c : Content) : d.node? o ≠ some (.file c) := by
  intro hfile
  have htake : l.take o.length = o := (List.prefix_iff_eq_take.1 ho).symm
  have hlt : o.length < l.length := by
    refine Nat.lt_of_le_of_ne ho.length_le fun heq => hne ?_
    exact ho.eq_of_length heq
  have hblocked : d.blocked l = true := by
    refine List.any_eq_true.2 ⟨o.length, List.mem_range.2 hlt, ?_⟩
    rw [htake, hfile]
  rw [h] at hblocked
  cases hblocked

theorem blocked_eq_false {d : Disk} {l : Location}
    (h : ∀ o, o <+: l → ∀ c, d.node? o ≠ some (.file c)) : d.blocked l = false := by
  refine List.any_eq_false.2 fun n _ => ?_
  have habove : l.take n <+: l := List.take_prefix n l
  split
  · next c hfile => exact absurd hfile (h _ habove c)
  · decide

@[simp] theorem hazards_makeDirectory (d : Disk) (l : Location) :
    (d.makeDirectory l).1.hazards = d.hazards := by
  unfold makeDirectory
  split
  · rfl
  · split
    · rfl
    · split
      · rfl
      · exact hazards_addDirectories _ _

/-- Only directories are made, and only on the way to `l`. -/
theorem node?_makeDirectory (d : Disk) (l o : Location) :
    (d.makeDirectory l).1.node? o = d.node? o ∨
      (o <+: l ∧ d.node? o = none ∧ (d.makeDirectory l).1.node? o = some .directory) := by
  unfold makeDirectory
  split
  · exact Or.inl rfl
  · split
    · exact Or.inl rfl
    · split
      · exact Or.inl rfl
      · rcases node?_addDirectories d ((List.range (l.length + 1)).map l.take) o with
          heq | ⟨hmem, hnone, hdirectory⟩
        · exact Or.inl heq
        · exact Or.inr ⟨mem_ancestors.1 hmem, hnone, hdirectory⟩

theorem node?_makeDirectory_of_not_above (d : Disk) {l o : Location} (h : ¬o <+: l) :
    (d.makeDirectory l).1.node? o = d.node? o := by
  rcases node?_makeDirectory d l o with heq | ⟨habove, -⟩
  · exact heq
  · exact absurd habove h

/-- A directory that was made is there with all those above it. -/
theorem hasDirectory_makeDirectory {d : Disk} {l : Location} (h : (d.makeDirectory l).2 = none) :
    HasDirectory (d.makeDirectory l).1 l := by
  unfold makeDirectory at h ⊢
  split at h
  · cases h
  next hshort =>
  rw [if_neg hshort]
  split at h
  · cases h
  next hfree =>
  rw [if_neg hfree]
  split at h
  · cases h
  next hnot =>
  refine ⟨by simpa using hshort, fun o ho => ?_⟩
  obtain ⟨n, hn⟩ := contains_iff.1 (contains_addDirectories h (mem_ancestors.2 ho))
  cases n with
  | directory => exact hn
  | file c =>
    -- a file would have stood there before
    have hbefore : d.node? o = some (.file c) := by
      rcases node?_addDirectories d ((List.range (l.length + 1)).map l.take) o with
        heq | ⟨-, -, hdirectory⟩
      · rw [← heq, hn]
      · rw [hn] at hdirectory
        cases hdirectory
    by_cases hol : o = l
    · exact absurd (hol ▸ hbefore) (hnot c)
    · exact absurd hbefore (not_file_of_not_blocked (by simpa using hfree) ho hol c)

/-- A directory can be made where no file is in the way. -/
theorem makeDirectory_eq_none {d : Disk} {l : Location} (hd : d.hazards = [])
    (hshort : isLongPath l.text = false) (hnames : ∀ n ∈ l, isLongName n = false)
    (hfree : ∀ o, o <+: l → ∀ c, d.node? o ≠ some (.file c)) : (d.makeDirectory l).2 = none := by
  have hlast : ∀ o ∈ (List.range (l.length + 1)).map l.take,
      isLongName (o.getLast?.getD "") = false := by
    intro o ho
    cases hname : o.getLast? with
    | none => decide
    | some n => exact hnames n ((mem_ancestors.1 ho).subset (List.mem_of_getLast? hname))
  unfold makeDirectory
  rw [if_neg (by rw [hshort]; decide), if_neg (by rw [blocked_eq_false hfree]; decide)]
  split
  · next c hfile => exact absurd hfile (hfree l (List.prefix_refl l) c)
  · exact addDirectories_eq_none hd hlast

/-! ### Files -/

theorem node?_openFile_of_ne {d d' : Disk} {l o : Location} (h : d.openFile l = .ok d')
    (hl : l ≠ []) (ho : o ≠ l) : d'.node? o = d.node? o := by
  unfold openFile at h
  split at h
  · cases h
  · cases h
  · cases h
  · split at h
    · cases h
    · split at h
      · cases h
      · cases h
        rw [node?_set d l o _ hl, if_neg ho]

theorem hazards_openFile {d d' : Disk} {l : Location} (h : d.openFile l = .ok d') :
    d'.hazards = d.hazards := by
  unfold openFile at h
  split at h
  · cases h
  · cases h
  · cases h
  · split at h
    · cases h
    · split at h
      · cases h
      · cases h
        rfl

@[simp] theorem hazards_writeFile (d : Disk) (l : Location) (text : String) :
    (d.writeFile l text).1.hazards = d.hazards := by
  unfold writeFile
  split
  · rfl
  · next opened hopen =>
    split
    · rw [hazards_set, hazards_openFile hopen]
    · rw [hazards_set, hazards_openFile hopen]

theorem node?_writeFile_of_ne (d : Disk) {l o : Location} (text : String) (hl : l ≠ [])
    (ho : o ≠ l) : (d.writeFile l text).1.node? o = d.node? o := by
  unfold writeFile
  split
  · rfl
  · next opened hopen =>
    split
    · rw [node?_set _ l o _ hl, if_neg ho, node?_openFile_of_ne hopen hl ho]
    · rw [node?_set _ l o _ hl, if_neg ho, node?_openFile_of_ne hopen hl ho]

/-- What is written at `l` is a file, unless nothing was done. -/
theorem node?_writeFile_self (d : Disk) {l : Location} (text : String) (hl : l ≠ []) :
    (d.writeFile l text).1.node? l = d.node? l ∨
      ∃ c, (d.writeFile l text).1.node? l = some (.file c) := by
  unfold writeFile
  split
  · exact Or.inl rfl
  · next opened hopen =>
    split
    · exact Or.inr ⟨_, by rw [node?_set _ l l _ hl, if_pos rfl]⟩
    · exact Or.inr ⟨_, by rw [node?_set _ l l _ hl, if_pos rfl]⟩

theorem node?_writeFile_of_eq_none {d : Disk} {l : Location} {text : String} (hl : l ≠ [])
    (h : (d.writeFile l text).2 = none) :
    (d.writeFile l text).1.node? l = some (.file (.text text)) := by
  unfold writeFile at h ⊢
  split at h
  · cases h
  · split at h
    · cases h
    · rw [node?_set _ l l _ hl, if_pos rfl]

theorem node?_removeFile_of_ne (d : Disk) {l o : Location} (hl : l ≠ []) (ho : o ≠ l) :
    (d.removeFile l).node? o = d.node? o := by
  unfold removeFile
  split
  · rw [node?_erase d l o hl, if_neg ho]
  · rfl

@[simp] theorem hazards_removeFile (d : Disk) (l : Location) :
    (d.removeFile l).hazards = d.hazards := by
  unfold removeFile
  split <;> rfl

/-- What is removed is gone, a directory apart. -/
theorem node?_removeFile_self (d : Disk) {l : Location} (hl : l ≠ []) (c : Content) :
    (d.removeFile l).node? l ≠ some (.file c) := by
  unfold removeFile
  split
  · rw [node?_erase d l l hl, if_pos rfl]
    exact fun h => by cases h
  · next hnot => exact hnot c

theorem rename_eq_ok {d d' : Disk} {source target : Location}
    (h : d.rename source target = .ok d') :
    ∃ n, d.node? source = some n ∧ d.node? target ≠ some .directory ∧
      d' = (d.erase source).set target n := by
  unfold rename at h
  split at h
  · cases h
  · cases h
  · next n hsource hnot =>
    split at h
    · cases h
    · cases h
      exact ⟨n, hsource, fun hdirectory => hnot hdirectory, rfl⟩

theorem rename_of_hazards_eq_nil {d : Disk} (hd : d.hazards = []) {source target : Location}
    {n : Node} (hsource : d.node? source = some n) (htarget : d.node? target ≠ some .directory) :
    d.rename source target = .ok ((d.erase source).set target n) := by
  have hdevice : Hazard.rename source target ∉ d.hazards := by
    rw [hd]
    exact List.not_mem_nil
  unfold rename
  rw [hsource]
  split
  · next heq => cases heq
  · next heq => exact absurd heq htarget
  · next heq _ =>
    cases heq
    rw [if_neg hdevice]

/-! ### Replacing a file -/

/-- The disk on which the draft of a file is written. -/
def withDirectory (d : Disk) (l : Location) : Disk := (d.makeDirectory l.parent).1

/-- The disk with the draft of a file, or with what was written of it. -/
def withDraft (d : Disk) (l : Location) (text : String) : Disk :=
  ((d.withDirectory l).writeFile (l.withEnding draftEnding) text).1

theorem draft_ne {l : Location} (hl : l ≠ []) : l.withEnding draftEnding ≠ l :=
  Location.withEnding_ne hl (by decide)

/-- A draft is beside its file, not above it. -/
theorem draft_not_isPrefix_parent {l : Location} (hl : l ≠ []) :
    ¬l.withEnding draftEnding <+: l.parent :=
  Location.not_isPrefix_parent (Nat.le_of_eq (Location.length_withEnding hl _).symm) hl

/-- A file is not replaced for want of its directory, its draft is given up, or the draft takes its
place. -/
theorem replaceFile_cases (d : Disk) {l : Location} (hl : l ≠ []) (text : String) :
    (∃ e, (d.makeDirectory l.parent).2 = some e ∧
      d.replaceFile l text = (d.withDirectory l, some e)) ∨
    (∃ e, d.replaceFile l text =
      ((d.withDraft l text).removeFile (l.withEnding draftEnding), some e)) ∨
    ((d.makeDirectory l.parent).2 = none ∧ d.node? l ≠ some .directory ∧
      (d.withDraft l text).node? (l.withEnding draftEnding) = some (.file (.text text)) ∧
      d.replaceFile l text = (((d.withDraft l text).erase (l.withEnding draftEnding)).set l
        (.file (.text text)), none)) := by
  have hdraft := l.withEnding_ne_nil draftEnding
  have hne := draft_ne hl
  unfold replaceFile withDraft withDirectory
  split
  · next made e hmade =>
    rw [hmade]
    exact Or.inl ⟨e, rfl, rfl⟩
  · next made hmade =>
    -- directories are made above the file only, so what is in its place stays
    have hbefore : made.node? l = d.node? l := by
      have hparent := Location.not_isPrefix_parent (Nat.le_refl _) hl
      have hsame := node?_makeDirectory_of_not_above d hparent
      rwa [hmade] at hsame
    rw [hmade]
    dsimp only
    split
    · next written e hwritten =>
      rw [hwritten]
      exact Or.inr (Or.inl ⟨e, rfl⟩)
    · next written hwritten =>
      have hfile : written.node? (l.withEnding draftEnding) = some (.file (.text text)) := by
        have hself := @node?_writeFile_of_eq_none made _ text hdraft (by rw [hwritten])
        rwa [hwritten] at hself
      have hsame : written.node? l = made.node? l := by
        have hother := node?_writeFile_of_ne made text hdraft (Ne.symm hne)
        rwa [hwritten] at hother
      rw [hwritten]
      dsimp only
      split
      · next e hrename => exact Or.inr (Or.inl ⟨e, rfl⟩)
      · next after hrename =>
        obtain ⟨n, hn, htarget, rfl⟩ := rename_eq_ok hrename
        rw [hfile] at hn
        cases hn
        rw [hsame, hbefore] at htarget
        exact Or.inr (Or.inr ⟨rfl, htarget, hfile, rfl⟩)

theorem node?_withDirectory {d : Disk} {l o : Location} (h : ¬o <+: l.parent) :
    (d.withDirectory l).node? o = d.node? o :=
  node?_makeDirectory_of_not_above d h

theorem node?_withDraft {d : Disk} {l o : Location} (text : String)
    (ho : o ≠ l.withEnding draftEnding) :
    (d.withDraft l text).node? o = (d.withDirectory l).node? o :=
  node?_writeFile_of_ne _ text (l.withEnding_ne_nil draftEnding) ho

@[simp] theorem hazards_replaceFile (d : Disk) {l : Location} (hl : l ≠ []) (text : String) :
    (d.replaceFile l text).1.hazards = d.hazards := by
  rcases replaceFile_cases d hl text with ⟨e, -, heq⟩ | ⟨e, heq⟩ | ⟨-, -, -, heq⟩ <;> rw [heq] <;>
    simp [withDraft, withDirectory]

/-- The file and its draft apart, what is at a location stays as it is, unless a directory is made
above the file. -/
theorem node?_replaceFile_of_ne (d : Disk) {l o : Location} (hl : l ≠ []) (text : String)
    (hol : o ≠ l) (hdraft : o ≠ l.withEnding draftEnding) :
    (d.replaceFile l text).1.node? o = (d.withDirectory l).node? o := by
  rcases replaceFile_cases d hl text with ⟨e, -, heq⟩ | ⟨e, heq⟩ | ⟨-, -, -, heq⟩
  · rw [heq]
  · rw [heq, node?_removeFile_of_ne _ (l.withEnding_ne_nil _) hdraft, node?_withDraft text hdraft]
  · rw [heq, node?_set _ _ _ _ hl, if_neg hol, node?_erase _ _ _ (l.withEnding_ne_nil _),
      if_neg hdraft, node?_withDraft text hdraft]

/-- A file is replaced as a whole or not at all. -/
theorem node?_replaceFile (d : Disk) {l : Location} (hl : l ≠ []) (text : String) :
    (d.replaceFile l text).1.node? l =
      if (d.replaceFile l text).2 = none then some (.file (.text text)) else d.node? l := by
  have hdraft := l.withEnding_ne_nil draftEnding
  have hne : l ≠ l.withEnding draftEnding := (draft_ne hl).symm
  have hparent : ¬l <+: l.parent := Location.not_isPrefix_parent (Nat.le_refl _) hl
  rcases replaceFile_cases d hl text with ⟨e, -, heq⟩ | ⟨e, heq⟩ | ⟨-, -, -, heq⟩
  · rw [heq, if_neg (by simp), node?_withDirectory hparent]
  · rw [heq, if_neg (by simp), node?_removeFile_of_ne _ hdraft hne, node?_withDraft text hne,
      node?_withDirectory hparent]
  · rw [heq, if_pos rfl, node?_set _ _ _ _ hl, if_pos rfl]

/-- A draft is a directory afterwards only if it was one before. -/
theorem node?_draft_replaceFile (d : Disk) {l : Location} (hl : l ≠ []) (text : String)
    (h : d.node? (l.withEnding draftEnding) ≠ some .directory) :
    (d.replaceFile l text).1.node? (l.withEnding draftEnding) ≠ some .directory := by
  have hdraft := l.withEnding_ne_nil draftEnding
  have hne := draft_ne hl
  have hparent := draft_not_isPrefix_parent hl
  rcases replaceFile_cases d hl text with ⟨e, -, heq⟩ | ⟨e, heq⟩ | ⟨-, -, -, heq⟩
  · rw [heq, node?_withDirectory hparent]
    exact h
  · rw [heq]
    unfold removeFile
    split
    · rw [node?_erase _ _ _ hdraft, if_pos rfl]
      exact fun hnone => by cases hnone
    · rcases node?_writeFile_self (d.withDirectory l) text hdraft with hsame | ⟨c, hfile⟩
      · rw [withDraft, hsame, node?_withDirectory hparent]
        exact h
      · rw [withDraft, hfile]
        exact fun hdirectory => by cases hdirectory
  · rw [heq, node?_set _ _ _ _ hl, if_neg hne, node?_erase _ _ _ hdraft, if_pos rfl]
    exact fun hnone => by cases hnone

/-- The directory of a file that was replaced is there. -/
theorem hasDirectory_of_replaceFile {d : Disk} {l : Location} (hl : l ≠ []) {text : String}
    (h : (d.replaceFile l text).2 = none) : HasDirectory (d.replaceFile l text).1 l.parent := by
  have hmade : (d.makeDirectory l.parent).2 = none := by
    rcases replaceFile_cases d hl text with ⟨e, -, heq⟩ | ⟨e, heq⟩ | ⟨hmade, -⟩
    · rw [heq] at h
      cases h
    · rw [heq] at h
      cases h
    · exact hmade
  have hdirectory := hasDirectory_makeDirectory hmade
  refine ⟨hdirectory.short, fun o ho => ?_⟩
  have hol : o ≠ l := by
    rintro rfl
    exact Location.not_isPrefix_parent (Nat.le_refl _) hl ho
  have hdraft : o ≠ l.withEnding draftEnding := by
    rintro rfl
    exact draft_not_isPrefix_parent hl ho
  rw [node?_replaceFile_of_ne d hl text hol hdraft]
  exact hdirectory.directory o ho

/-- What it takes to replace a file: a device without hazards, names and paths that are not too
long, and nothing in the way of the directory, of the draft and of the file. -/
structure CanReplace (d : Disk) (l : Location) : Prop where
  hazards : d.hazards = []
  shortNames : ∀ n ∈ l.withEnding draftEnding, isLongName n = false
  shortDirectory : isLongPath l.parent.text = false
  shortDraft : isLongPath (l.withEnding draftEnding).text = false
  directory_free : ∀ o, o <+: l.parent → ∀ c, d.node? o ≠ some (.file c)
  draft_free : d.node? (l.withEnding draftEnding) ≠ some .directory
  free : d.node? l ≠ some .directory

/-- A file can be opened in a directory that is there. -/
theorem openFile_eq_ok {d : Disk} {l : Location} (hd : d.hazards = [])
    (hfree : d.node? l ≠ some .directory) (hparent : d.node? l.parent = some .directory)
    (hpath : isLongPath l.text = false) (hname : isLongName (l.getLast?.getD "") = false) :
    d.openFile l = .ok (d.set l (.file (.text ""))) := by
  have hdevice : Hazard.openFile l ∉ d.hazards := by
    rw [hd]
    exact List.not_mem_nil
  unfold openFile
  rw [hparent, hpath, hname]
  split
  · next heq => exact absurd heq hfree
  · next heq => cases heq
  · next heq => cases heq
  · rw [if_neg (by decide), if_neg hdevice]

theorem writeFile_eq_ok {d d' : Disk} {l : Location} (hd : d.hazards = [])
    (h : d.openFile l = .ok d') (text : String) :
    d.writeFile l text = (d'.set l (.file (.text text)), none) := by
  have hstops : d.stopsAfter? l = none := by
    rw [stopsAfter?, hd]
    rfl
  unfold writeFile
  rw [h]
  dsimp only
  rw [hstops]

/-- A file is replaced where nothing is in the way. -/
theorem replaceFile_of_canReplace {d : Disk} {l : Location} (hl : l ≠ []) (h : CanReplace d l)
    (text : String) : (d.replaceFile l text).2 = none := by
  have hdraft := l.withEnding_ne_nil draftEnding
  have hne := draft_ne hl
  have hname : isLongName ((l.withEnding draftEnding).getLast?.getD "") = false := by
    cases hlast : (l.withEnding draftEnding).getLast? with
    | none => decide
    | some n => exact h.shortNames n (List.mem_of_getLast? hlast)
  have hparentNames : ∀ n ∈ l.parent, isLongName n = false := by
    intro n hn
    exact h.shortNames n (List.mem_append_left _ hn)
  have hmade : (d.makeDirectory l.parent).2 = none :=
    makeDirectory_eq_none h.hazards h.shortDirectory hparentNames h.directory_free
  have hhazards : (d.withDirectory l).hazards = [] := by
    rw [withDirectory, hazards_makeDirectory, h.hazards]
  have hdraftFree : (d.withDirectory l).node? (l.withEnding draftEnding) ≠ some .directory := by
    rw [node?_withDirectory (draft_not_isPrefix_parent hl)]
    exact h.draft_free
  have hdirectory : (d.withDirectory l).node? (l.withEnding draftEnding).parent =
      some .directory := by
    rw [Location.parent_withEnding]
    exact (hasDirectory_makeDirectory hmade).directory _ (List.prefix_refl _)
  have hopen := openFile_eq_ok hhazards hdraftFree hdirectory h.shortDraft hname
  have hwrite := writeFile_eq_ok hhazards hopen text
  have hpair : d.makeDirectory l.parent = (d.withDirectory l, none) :=
    Prod.ext rfl hmade
  have hsource : ((d.withDraft l text)).node? (l.withEnding draftEnding) =
      some (.file (.text text)) :=
    node?_writeFile_of_eq_none hdraft (by rw [hwrite])
  have htarget : (d.withDraft l text).node? l ≠ some .directory := by
    rw [node?_withDraft text (Ne.symm hne),
      node?_withDirectory (Location.not_isPrefix_parent (Nat.le_refl _) hl)]
    exact h.free
  have hdevice : (d.withDraft l text).hazards = [] := by
    rw [withDraft, hazards_writeFile, hhazards]
  have hrename := rename_of_hazards_eq_nil hdevice hsource htarget
  unfold replaceFile
  rw [hpair]
  dsimp only
  rw [show (d.withDirectory l).writeFile (l.withEnding draftEnding) text =
    (d.withDraft l text, none) from Prod.ext rfl (by rw [hwrite])]
  dsimp only
  rw [hrename]

end Disk

end SpendingLedger
