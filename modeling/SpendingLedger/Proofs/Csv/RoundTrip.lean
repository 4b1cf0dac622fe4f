import Mathlib.Data.List.Induction
import SpendingLedger.Csv.Reader
import SpendingLedger.Proofs.Text.Trim

/-!
# Written records are read back

Records are written with every field in quotes, quotes in a field written twice, commas between the
fields and a line end behind each record.  A reader that is at the start of a record reads such a
record back, whatever its fields hold: within the quotes commas, carriage returns and line feeds are
characters like all others.  Records without fields at the end of a text are lost when the text is
trimmed, and they only.

## Main definitions

* `Csv.LineEnd`, `Csv.quotedField`, `Csv.recordChars`, `Csv.tableChars` — records as they are
  written.
* `Csv.IsShort` — the records whose fields can be read.
* `Csv.Reader.Holds` — a reader behind the last field of a record.

## Main results

* `Csv.Reader.run_recordChars`, `Csv.Reader.run_tableChars` — one record and a table, read back.
* `Csv.read_trimChars_tableChars` — **a written table is read back from its trimmed text.**
-/

namespace SpendingLedger.Csv

/-! ### Writing -/

/-- What ends the records of a text. -/
inductive LineEnd
  | feed
  | returnFeed
  deriving DecidableEq

def LineEnd.chars : LineEnd → List Char
  | .feed => ['\n']
  | .returnFeed => ['\r', '\n']

/-- A character inside quotes, where quotes are written twice. -/
def quotedChar (c : Char) : List Char := if c = '"' then ['"', '"'] else [c]

/-- A field in quotes. -/
def quotedField (cs : List Char) : List Char := '"' :: (cs.flatMap quotedChar ++ ['"'])

/-- A record as it is written, with commas between its fields. -/
def recordChars (record : Record) : List Char := List.intercalate [','] (record.map quotedField)

/-- Records as they are written, each with a line end. -/
def tableChars (e : LineEnd) (records : List Record) : List Char :=
  records.flatMap fun record => recordChars record ++ e.chars

/-- Whether no field of a record is longer than `fieldLimit`. -/
def IsShort (record : Record) : Prop := ∀ cs ∈ record, cs.length ≤ fieldLimit

instance (record : Record) : Decidable (IsShort record) :=
  inferInstanceAs (Decidable (∀ cs ∈ record, cs.length ≤ fieldLimit))

@[simp] theorem recordChars_nil : recordChars [] = [] := rfl

@[simp] theorem recordChars_singleton (cs : List Char) : recordChars [cs] = quotedField cs :=
  List.intercalate_singleton

theorem recordChars_cons_cons (as bs : List Char) (record : Record) :
    recordChars (as :: bs :: record) = quotedField as ++ (',' :: recordChars (bs :: record)) := by
  unfold recordChars
  rw [List.map_cons, List.map_cons, List.intercalate_cons_cons, List.append_assoc]
  rfl

/-- Something is written of every field. -/
theorem recordChars_cons_eq_cons (cs : List Char) (record : Record) :
    ∃ rest, recordChars (cs :: record) = '"' :: rest := by
  cases record with
  | nil => exact ⟨_, recordChars_singleton cs⟩
  | cons bs record => exact ⟨_, recordChars_cons_cons cs bs record⟩

/-- A record with fields ends with a quote. -/
theorem getLast?_recordChars {record : Record} (h : record ≠ []) :
    (recordChars record).getLast? = some '"' := by
  induction record with
  | nil => exact absurd rfl h
  | cons cs record ih =>
    cases record with
    | nil =>
      rw [recordChars_singleton, quotedField, ← List.cons_append, List.getLast?_concat]
    | cons bs record =>
      rw [recordChars_cons_cons, List.getLast?_append, List.getLast?_cons, ih (by simp)]
      rfl

theorem tableChars_append (e : LineEnd) (as bs : List Record) :
    tableChars e (as ++ bs) = tableChars e as ++ tableChars e bs :=
  List.flatMap_append

theorem isSpace_of_mem_lineEnd {e : LineEnd} {c : Char} (h : c ∈ e.chars) :
    Text.isSpace c = true := by
  have hall : e.chars.all Text.isSpace = true := by cases e <;> decide
  exact List.all_eq_true.1 hall c h

/-- Records without fields leave nothing but line ends. -/
theorem isSpace_of_mem_tableChars_replicate {e : LineEnd} {k : Nat} {c : Char}
    (h : c ∈ tableChars e (List.replicate k [])) : Text.isSpace c = true := by
  obtain ⟨record, hrecord, hc⟩ := List.mem_flatMap.1 h
  rw [List.eq_of_mem_replicate hrecord, recordChars_nil, List.nil_append] at hc
  exact isSpace_of_mem_lineEnd hc

/-! ### Reading back -/

namespace Reader

theorem run_cons_of_feed {r r' : Reader} {c : Char} (h : r.feed c = .ok r') (cs : List Char) :
    run r (c :: cs) = run r' cs := by
  rw [run, h]

/-- What is read without an error is read before what follows. -/
theorem run_append {r r' : Reader} {as : List Char} (h : run r as = (r', none)) (bs : List Char) :
    run r (as ++ bs) = run r' bs := by
  induction as generalizing r with
  | nil =>
    cases h
    rfl
  | cons c as ih =>
    rw [run] at h
    cases hfeed : r.feed c with
    | error e =>
      rw [hfeed] at h
      cases h
    | ok next =>
      rw [hfeed] at h
      rw [List.cons_append, run_cons_of_feed hfeed]
      exact ih h

theorem feed_of_ne {c : Char} (h : c ≠ '\n') (r : Reader) : r.feed c = r.step c := if_neg h

theorem save_eq_ok {r : Reader} (h : r.field.length ≤ fieldLimit) (mode : Mode) :
    r.save mode = .ok { r with mode, field := [], fields := r.field.reverse :: r.fields } :=
  if_neg (Nat.not_lt.2 h)

/-- Inside quotes, a character is read back from the way it is written there. -/
theorem run_quotedChar {r : Reader} (h : r.mode = .quoted) (c : Char) (rest : List Char) :
    run r (quotedChar c ++ rest) = run { r with field := c :: r.field } rest := by
  obtain ⟨mode, field, fields, records⟩ := r
  cases h
  unfold quotedChar
  split
  · next hc =>
    subst hc
    rfl
  · next hc =>
    refine run_cons_of_feed ?_ rest
    have hstep : (⟨.quoted, field, fields, records⟩ : Reader).step c =
        .ok ⟨.quoted, c :: field, fields, records⟩ := congrArg Except.ok (if_neg hc)
    unfold feed
    rw [hstep]
    -- a line that ends inside quotes leaves them open
    split <;> rfl

theorem run_quotedChars {r : Reader} (h : r.mode = .quoted) (cs rest : List Char) :
    run r (cs.flatMap quotedChar ++ rest) =
      run { r with field := cs.reverse ++ r.field } rest := by
  induction cs generalizing r with
  | nil => rfl
  | cons c cs ih =>
    rw [List.flatMap_cons, List.append_assoc, run_quotedChar h, ih (by exact h),
      List.reverse_cons, List.append_assoc]
    rfl

/-- A field is read back where a field can start. -/
theorem run_quotedField {r : Reader} (hmode : r.mode = .recordStart ∨ r.mode = .fieldStart)
    (hfield : r.field = []) (cs rest : List Char) :
    run r (quotedField cs ++ rest) =
      run { r with mode := .quoteSeen, field := cs.reverse } rest := by
  have hopen : r.feed '"' = .ok { r with mode := .quoted } := by
    rw [feed_of_ne (by decide), step]
    rcases hmode with hmode | hmode <;> rw [hmode] <;> rfl
  rw [quotedField, List.cons_append, List.append_assoc, run_cons_of_feed hopen,
    run_quotedChars (by rfl), hfield, List.append_nil]
  exact run_cons_of_feed (by rfl) rest

/-- Whether a reader has all of a record, whose last field is not finished. -/
structure Holds (r : Reader) (record : Record) (earlier : List Record) : Prop where
  mode : r.mode = .quoteSeen
  short : r.field.length ≤ fieldLimit
  fields : r.field.reverse :: r.fields = record.reverse
  records : r.records = earlier

/-- Behind the fields that are finished already, the others are read back. -/
theorem exists_run_recordChars {record : Record} (hne : record ≠ []) (hshort : IsShort record)
    {r : Reader} (hmode : r.mode = .recordStart ∨ r.mode = .fieldStart) (hfield : r.field = []) :
    ∃ r', run r (recordChars record) = (r', none) ∧
      r'.Holds (r.fields.reverse ++ record) r.records := by
  -- each step leaves one more field behind it, so the induction is over all readers
  induction record generalizing r with
  | nil => exact absurd rfl hne
  | cons cs record ih =>
    have hlength : cs.reverse.length ≤ fieldLimit := by
      rw [List.length_reverse]
      exact hshort cs List.mem_cons_self
    cases record with
    | nil =>
      refine ⟨{ r with mode := .quoteSeen, field := cs.reverse }, ?_, rfl, hlength, ?_, rfl⟩
      · rw [recordChars_singleton, ← List.append_nil (quotedField cs),
          run_quotedField hmode hfield]
        rfl
      · simp
    | cons bs record =>
      obtain ⟨r', hrun, hholds⟩ := ih (by simp)
        (fun other hmem => hshort other (List.mem_cons_of_mem cs hmem))
        (r := ⟨.fieldStart, [], cs :: r.fields, r.records⟩) (Or.inr rfl) rfl
      refine ⟨r', ?_, ?_⟩
      · have hcomma : ({ r with mode := .quoteSeen, field := cs.reverse } : Reader).feed ',' =
            .ok ⟨.fieldStart, [], cs :: r.fields, r.records⟩ := by
          rw [feed_of_ne (by decide)]
          refine (save_eq_ok hlength .fieldStart).trans ?_
          rw [List.reverse_reverse]
        rw [recordChars_cons_cons, run_quotedField hmode hfield, run_cons_of_feed hcomma, hrun]
      · rw [List.reverse_cons, List.append_assoc] at hholds
        exact hholds

/-- A line end finishes a record. -/
theorem Holds.run_lineEnd {r : Reader} {record : Record} {earlier : List Record}
    (h : r.Holds record earlier) (e : LineEnd) (rest : List Char) :
    run r (e.chars ++ rest) = run { records := record :: earlier } rest := by
  obtain ⟨mode, field, fields, records⟩ := r
  obtain ⟨rfl, hshort, hfields, rfl⟩ := h
  have hrecord : (field.reverse :: fields).reverse = record := by
    rw [hfields, List.reverse_reverse]
  have hsave := save_eq_ok hshort .lineEnd
  have hemit : (⟨.lineEnd, [], field.reverse :: fields, records⟩ : Reader).emit =
      { records := record :: records } := by
    rw [← hrecord]
    rfl
  cases e with
  | feed =>
    have hfeed : (⟨.quoteSeen, field, fields, records⟩ : Reader).feed '\n' =
        .ok { records := record :: records } :=
      (congrArg (Except.bind · endLine) hsave).trans (congrArg Except.ok hemit)
    exact run_cons_of_feed hfeed rest
  | returnFeed =>
    have hreturn : (⟨.quoteSeen, field, fields, records⟩ : Reader).feed '\r' =
        .ok ⟨.lineEnd, [], field.reverse :: fields, records⟩ := hsave
    have hfeed : (⟨.lineEnd, [], field.reverse :: fields, records⟩ : Reader).feed '\n' =
        .ok { records := record :: records } := congrArg Except.ok hemit
    exact (run_cons_of_feed hreturn _).trans (run_cons_of_feed hfeed rest)

/-- A reader that holds a record finishes it at the end of the text. -/
theorem Holds.finish {r : Reader} {record : Record} {earlier : List Record}
    (h : r.Holds record earlier) : r.finish = .ok { records := record :: earlier } := by
  obtain ⟨mode, field, fields, records⟩ := r
  obtain ⟨rfl, hshort, hfields, rfl⟩ := h
  have hrecord : (field.reverse :: fields).reverse = record := by
    rw [hfields, List.reverse_reverse]
  refine (congrArg (Except.map emit) (save_eq_ok hshort .lineEnd)).trans ?_
  rw [← hrecord]
  rfl

/-- A record and its line end are read back at the start of a record. -/
theorem run_recordChars {record : Record} (hshort : IsShort record) (e : LineEnd)
    (earlier : List Record) (rest : List Char) :
    run { records := earlier } (recordChars record ++ e.chars ++ rest) =
      run { records := record :: earlier } rest := by
  rw [List.append_assoc]
  -- a record without fields is an empty line, which gives a record without fields
  by_cases hne : record = []
  · subst hne
    cases e <;> rfl
  · obtain ⟨r', hrun, hholds⟩ :=
      exists_run_recordChars hne hshort (r := { records := earlier }) (Or.inl rfl) rfl
    rw [run_append hrun, hholds.run_lineEnd]
    rfl

/-- **A written table is read back**, the latest record first. -/
theorem run_tableChars {records : List Record} (hshort : ∀ record ∈ records, IsShort record)
    (e : LineEnd) (earlier : List Record) (rest : List Char) :
    run { records := earlier } (tableChars e records ++ rest) =
      run { records := records.reverse ++ earlier } rest := by
  induction records generalizing earlier with
  | nil => rfl
  | cons record records ih =>
    rw [tableChars, List.flatMap_cons, List.append_assoc (recordChars record ++ e.chars),
      run_recordChars (hshort record List.mem_cons_self),
      ← tableChars, ih (fun other hmem => hshort other (List.mem_cons_of_mem record hmem)),
      List.reverse_cons, List.append_assoc]
    rfl

end Reader

/-- A table whose last line is not ended is read back if there is a field in it. -/
theorem read_tableChars_append {records : List Record} {last : Record}
    (hshort : ∀ record ∈ records ++ [last], IsShort record) (hlast : last ≠ []) (e : LineEnd) :
    read (tableChars e records ++ recordChars last) = (records ++ [last], none) := by
  obtain ⟨r, hrun, hholds⟩ := Reader.exists_run_recordChars hlast
    (hshort last (List.mem_append_right _ List.mem_cons_self))
    (r := { records := records.reverse }) (Or.inl rfl) rfl
  have htable := Reader.run_tableChars
    (fun record hmem => hshort record (List.mem_append_left _ hmem)) e [] (recordChars last)
  rw [List.append_nil, hrun] at htable
  unfold read
  rw [htable]
  dsimp only
  rw [hholds.finish]
  simp

/-! ### Trimming -/

/-- Behind the last record with a field there are only records without fields. -/
theorem exists_eq_append_replicate {records : List Record} (h : ∃ record ∈ records, record ≠ []) :
    ∃ body last k, records = body ++ last :: List.replicate k [] ∧ last ≠ [] := by
  induction records using List.reverseRecOn with
  | nil =>
    obtain ⟨record, hmem, -⟩ := h
    exact absurd hmem List.not_mem_nil
  | append_singleton records last ih =>
    by_cases hlast : last = []
    · subst hlast
      obtain ⟨record, hmem, hne⟩ := h
      have hrecord : record ∈ records := by
        rcases List.mem_append.1 hmem with hmem | hmem
        · exact hmem
        · exact absurd (List.mem_singleton.1 hmem) hne
      obtain ⟨body, last, k, rfl, hne'⟩ := ih ⟨record, hrecord, hne⟩
      refine ⟨body, last, k + 1, ?_, hne'⟩
      rw [List.replicate_succ', List.append_assoc, List.cons_append]
    · exact ⟨records, last, 0, rfl, hlast⟩

/-- Trimming takes nothing of a table but the line end of its last record. -/
theorem trimmed_tableChars_append {records : List Record} {last : Record} (hlast : last ≠ [])
    (hfirst : (records ++ [last]).head? ≠ some []) (e : LineEnd) :
    Text.Trimmed Text.isSpace (tableChars e records ++ recordChars last) := by
  -- the text begins and ends with a quote
  have hquote : Text.isSpace '"' = false := by decide
  constructor
  · intro c hc
    have hhead : ∃ rest, tableChars e records ++ recordChars last = '"' :: rest := by
      cases records with
      | nil =>
        obtain ⟨cs, rest, rfl⟩ := List.exists_cons_of_ne_nil hlast
        exact recordChars_cons_eq_cons cs rest
      | cons record records =>
        cases record with
        | nil => exact absurd rfl hfirst
        | cons cs record =>
          obtain ⟨rest, hrest⟩ := recordChars_cons_eq_cons cs record
          rw [tableChars, List.flatMap_cons, hrest]
          exact ⟨_, rfl⟩
    obtain ⟨rest, hrest⟩ := hhead
    rw [hrest, List.head?_cons] at hc
    cases hc
    exact hquote
  · intro c hc
    rw [List.getLast?_append, getLast?_recordChars hlast] at hc
    cases hc
    exact hquote

/-- **A written table is read back from its trimmed text**, up to records without fields at its
end. -/
theorem read_trimChars_tableChars {first : Record} {records : List Record} (hfirst : first ≠ [])
    (hshort : ∀ record ∈ first :: records, IsShort record) (e : LineEnd) :
    ∃ kept k, records = kept ++ List.replicate k [] ∧
      read (Text.trimChars (tableChars e (first :: records))) = (first :: kept, none) := by
  obtain ⟨body, last, k, heq, hlast⟩ :=
    exists_eq_append_replicate ⟨first, List.mem_cons_self, hfirst⟩
  have hsplit : first :: records = (body ++ [last]) ++ List.replicate k [] := by
    rw [heq, List.append_assoc]
    rfl
  have hshort' : ∀ record ∈ body ++ [last], IsShort record := fun record hmem =>
    hshort record (hsplit ▸ List.mem_append_left _ hmem)
  have hhead : (body ++ [last]).head? = some first := by
    have := congrArg List.head? hsplit
    rw [List.head?_append] at this
    cases body <;> simpa using this.symm
  have htext : Text.trimChars (tableChars e (first :: records)) =
      tableChars e body ++ recordChars last := by
    have htrimmed := trimmed_tableChars_append hlast (by rw [hhead]; simpa using hfirst) e
    rw [hsplit, tableChars_append, tableChars_append, tableChars, tableChars,
      List.flatMap_cons, List.flatMap_nil, List.append_nil, ← List.append_assoc,
      List.append_assoc]
    -- behind the last field there are line ends only
    refine Text.trimBy_append_of_trimmed htrimmed fun c hc => ?_
    rcases List.mem_append.1 hc with hc | hc
    · exact isSpace_of_mem_lineEnd hc
    · exact isSpace_of_mem_tableChars_replicate hc
  obtain ⟨kept, hkept⟩ : ∃ kept, body ++ [last] = first :: kept := by
    cases hbody : body ++ [last] with
    | nil => simp at hbody
    | cons record kept =>
      rw [hbody, List.head?_cons] at hhead
      cases hhead
      exact ⟨kept, rfl⟩
  refine ⟨kept, k, ?_, ?_⟩
  · rw [hkept, List.cons_append] at hsplit
    exact (List.cons.inj hsplit).2
  · rw [htext, read_tableChars_append hshort' hlast, hkept]

end SpendingLedger.Csv
