import SpendingLedger.Proofs.Json.Number
import SpendingLedger.Proofs.Value.Fields

/-!
# What is written is read back

A value is read as it was written, whatever its strings hold, as long as its lists and objects are
not too deep, its integers not too long, and the names of each object differ.  Decimals are left
out: they are written as strings.  The reader and the writer agree part by part, each part being
read up to what follows it, so the induction is on the value with that rest left general.

## Main definitions

* `Readable` — the values that are read as they were written.

## Main results

* `string_quoted` — a text is read as it was quoted.
* `value_renderAt` — **a readable value is read as it was written, up to what follows it.**
* `read_render` — **a readable value is the value of its text.**
-/

namespace SpendingLedger.Json

/-! ### Strings -/

/-- The characters without a name among the escapes are written by four digits that are read as
their number. -/
theorem hex4?_hex {n : Nat} (h : n < 0x20) :
    ∃ h₁ h₂ h₃ h₄, Text.hex 4 n = [h₁, h₂, h₃, h₄] ∧ hex4? h₁ h₂ h₃ h₄ = some n := by
  have hall : ∀ m : Fin 0x20,
      Text.hex 4 m = ['0', '0', (Text.hex 4 m).getD 2 '0', (Text.hex 4 m).getD 3 '0'] ∧
        hex4? '0' '0' ((Text.hex 4 m).getD 2 '0') ((Text.hex 4 m).getD 3 '0') = some m.val := by
    decide
  obtain ⟨hhex, hread⟩ := hall ⟨n, h⟩
  exact ⟨_, _, _, _, hhex, hread⟩

/-- A code unit below the surrogates stands for itself. -/
theorem ofUnit_toNat {c : Char} (h : c.toNat < 0x20) : ofUnit c.toNat = c := by
  have hleading : isLeading c.toNat = false := by
    simp only [isLeading, Bool.and_eq_false_iff, decide_eq_false_iff_not]
    omega
  have htrailing : isTrailing c.toNat = false := by
    simp only [isTrailing, Bool.and_eq_false_iff, decide_eq_false_iff_not]
    omega
  rw [ofUnit, hleading, htrailing]
  exact Char.ofNat_toNat c

theorem string_closed (start : Nat) (done rest : List Char) :
    string start done ('"' :: rest) = .ok (String.ofList done.reverse, rest) := by
  rw [string.eq_def]
  simp

theorem string_named (start : Nat) (done : List Char) {e d : Char} (hd : escaped? e = some d)
    (rest : List Char) :
    string start done ('\\' :: e :: rest) = string start (d :: done) rest := by
  have hu : e ≠ 'u' := by
    rintro rfl
    cases hd
  rw [string.eq_def]
  simp [hu, hd]

theorem string_coded (start : Nat) (done : List Char) {h₁ h₂ h₃ h₄ : Char} {n : Nat}
    (hn : hex4? h₁ h₂ h₃ h₄ = some n) (hleading : isLeading n = false) {rest : List Char}
    (hrest : rest ≠ []) :
    string start done ('\\' :: 'u' :: h₁ :: h₂ :: h₃ :: h₄ :: rest) =
      string start (ofUnit n :: done) rest := by
  rw [string.eq_def]
  simp [hn, hleading, hrest]

theorem string_plain (start : Nat) (done : List Char) {c : Char} (hquote : c ≠ '"')
    (hback : c ≠ '\\') (hcontrol : ¬c.toNat < 0x20) (rest : List Char) :
    string start done (c :: rest) = string start (c :: done) rest := by
  rw [string.eq_def]
  simp [hquote, hback, hcontrol]

/-- The written form of a character is read as that character. -/
theorem string_escapeChar (start : Nat) (done : List Char) (c : Char) {rest : List Char}
    (hrest : rest ≠ []) :
    string start done (escapeChar c ++ rest) = string start (c :: done) rest := by
  unfold escapeChar
  split
  · exact string_named start done rfl rest
  · exact string_named start done rfl rest
  · exact string_named start done rfl rest
  · exact string_named start done rfl rest
  · exact string_named start done rfl rest
  · exact string_named start done rfl rest
  · exact string_named start done rfl rest
  · next hquote hback _ _ _ _ _ =>
    by_cases hcontrol : c.toNat < 0x20
    · obtain ⟨h₁, h₂, h₃, h₄, hhex, hread⟩ := hex4?_hex hcontrol
      have hleading : isLeading c.toNat = false := by
        simp only [isLeading, Bool.and_eq_false_iff, decide_eq_false_iff_not]
        omega
      rw [if_pos hcontrol, hhex]
      show string start done ('\\' :: 'u' :: h₁ :: h₂ :: h₃ :: h₄ :: rest) = _
      rw [string_coded start done hread hleading hrest, ofUnit_toNat hcontrol]
    · rw [if_neg hcontrol]
      exact string_plain start done hquote hback hcontrol rest

/-- The inside of a string is read up to its closing quote. -/
theorem string_flatMap_escapeChar (start : Nat) (done cs rest : List Char) :
    string start done (cs.flatMap escapeChar ++ '"' :: rest) =
      .ok (String.ofList (done.reverse ++ cs), rest) := by
  induction cs generalizing done with
  | nil => rw [List.flatMap_nil, List.nil_append, string_closed, List.append_nil]
  | cons c cs ih =>
    rw [List.flatMap_cons, List.append_assoc, string_escapeChar _ _ _ (by simp), ih,
      List.reverse_cons, List.append_assoc]
    rfl

theorem quoteString_eq (s : String) :
    quoteString s = '"' :: (s.toList.flatMap escapeChar ++ ['"']) := rfl

/-- A text is read as it was quoted. -/
theorem string_quoted (start : Nat) (s : String) (rest : List Char) :
    string start [] ((s.toList.flatMap escapeChar ++ ['"']) ++ rest) = .ok (s, rest) := by
  rw [List.append_assoc, List.singleton_append, string_flatMap_escapeChar, List.reverse_nil,
    List.nil_append, String.ofList_toList]

/-! ### Blanks and heads -/

/-- Whether a text begins with a character that can begin a value. -/
def StartsValue (cs : List Char) : Prop :=
  ∃ c rest, cs = c :: rest ∧
    c ≠ ' ' ∧ c ≠ '\t' ∧ c ≠ '\n' ∧ c ≠ '\r' ∧ c ≠ ']' ∧ c ≠ '\ufeff'

theorem startsValue_cons {c : Char} {rest : List Char}
    (h : c ≠ ' ' ∧ c ≠ '\t' ∧ c ≠ '\n' ∧ c ≠ '\r' ∧ c ≠ ']' ∧ c ≠ '\ufeff') :
    StartsValue (c :: rest) :=
  ⟨c, rest, rfl, h⟩

theorem StartsValue.append {cs : List Char} (h : StartsValue cs) (rest : List Char) :
    StartsValue (cs ++ rest) := by
  obtain ⟨c, tail, rfl, hc⟩ := h
  exact startsValue_cons hc

theorem startsValue_of_isDigit {c : Char} {rest : List Char} (h : c.isDigit = true) :
    StartsValue (c :: rest) := by
  refine startsValue_cons ⟨?_, ?_, ?_, ?_, ?_, ?_⟩ <;> (rintro rfl; revert h; decide)

theorem skipBlanks_of_startsValue {cs : List Char} (h : StartsValue cs) : skipBlanks cs = cs := by
  obtain ⟨c, rest, rfl, hspace, htab, hfeed, hreturn, -⟩ := h
  unfold skipBlanks
  rw [List.dropWhile_cons_of_neg]
  simp [hspace, htab, hfeed, hreturn]

/-- The blanks of a new line are passed over. -/
theorem skipBlanks_newLine (depth : Nat) (cs : List Char) :
    skipBlanks (newLine depth ++ cs) = skipBlanks cs := by
  unfold skipBlanks newLine
  rw [List.dropWhile_append_of_pos]
  intro c hc
  rcases List.mem_cons.1 hc with rfl | hc
  · decide
  · rw [List.eq_of_mem_replicate hc]
    decide

theorem skipBlanks_space (cs : List Char) : skipBlanks (' ' :: cs) = skipBlanks cs := rfl

theorem skipBlanks_cons {c : Char} (rest : List Char)
    (h : c ≠ ' ' ∧ c ≠ '\t' ∧ c ≠ '\n' ∧ c ≠ '\r') : skipBlanks (c :: rest) = c :: rest := by
  unfold skipBlanks
  rw [List.dropWhile_cons_of_neg]
  simp [h]

/-! ### Words and numbers -/

/-- The text of a number has a digit at its head, perhaps behind a minus sign. -/
def StartsNumber (cs : List Char) : Prop :=
  ∃ negative d ds, cs = Binary64.withSign negative (d :: ds) ∧ d.isDigit = true

theorem StartsNumber.startsValue {cs : List Char} (h : StartsNumber cs) : StartsValue cs := by
  obtain ⟨negative, d, ds, rfl, hd⟩ := h
  cases negative with
  | true => exact startsValue_cons (by decide)
  | false => exact startsValue_of_isDigit hd

theorem StartsNumber.append {cs : List Char} (h : StartsNumber cs) (rest : List Char) :
    StartsNumber (cs ++ rest) := by
  obtain ⟨negative, d, ds, rfl, hd⟩ := h
  exact ⟨negative, d, ds ++ rest, by cases negative <;> rfl, hd⟩

/-- No word stands where a number does. -/
theorem atom_of_startsNumber {cs : List Char} (h : StartsNumber cs) : atom cs = number cs := by
  obtain ⟨negative, d, ds, rfl, hd⟩ := h
  have hletter : 'n' ≠ d ∧ 't' ≠ d ∧ 'f' ≠ d ∧ 'N' ≠ d ∧ 'I' ≠ d ∧ '-' ≠ d := by
    refine ⟨?_, ?_, ?_, ?_, ?_, ?_⟩ <;> (rintro rfl; revert hd; decide)
  have hnone : words.find? (fun w => w.1.isPrefixOf (Binary64.withSign negative (d :: ds))) =
      none := by
    cases negative <;> simp [words, Binary64.withSign, hletter]
  unfold atom
  rw [hnone]

theorem startsNumber_integer (n : Int) : StartsNumber (Integer.chars n) := by
  unfold Integer.chars
  cases hdigits : natDigits n.natAbs with
  | nil => exact absurd hdigits (natDigits_ne_nil _)
  | cons d ds => exact ⟨_, d, ds, rfl, isDigit_of_mem_natDigits (hdigits ▸ List.mem_cons_self)⟩

theorem startsNumber_finite (negative : Bool) {units : Nat} (h : Binary64.Representable units) :
    StartsNumber (Binary64.finite negative units h).textChars := by
  show StartsNumber (Binary64.withSign negative (Binary64.magnitudeText Binary64.style units))
  by_cases hzero : units = 0
  · rw [Binary64.magnitudeText, if_pos hzero]
    exact ⟨negative, '0', _, rfl, by decide⟩
  · obtain ⟨p, hp, -, hchars, -⟩ := writes_magnitudeText h hzero Binary64.style
    obtain ⟨d, ds, hcons, hd⟩ := p.exists_chars_eq_cons hp
    exact ⟨negative, d, ds, by rw [← hchars, hcons], hd⟩

/-- What stands for a value outside strings, lists and objects is a word or a number. -/
theorem value_eq_atom (depth fuel : Nat) {cs : List Char} (h : StartsNumber cs) :
    value depth (fuel + 1) cs = number cs := by
  have hatom := atom_of_startsNumber h
  obtain ⟨negative, d, ds, rfl, hd⟩ := h
  cases negative with
  | true => exact hatom
  | false =>
    have hmark : d ≠ '"' ∧ d ≠ '[' ∧ d ≠ '\x7b' := by
      refine ⟨?_, ?_, ?_⟩ <;> (rintro rfl; revert hd; decide)
    show (if d = '"' then _ else if d = '[' then _ else if d = '\x7b' then _ else atom (d :: ds)) =
      number (d :: ds)
    rw [if_neg hmark.1, if_neg hmark.2.1, if_neg hmark.2.2]
    exact hatom

/-- A binary64 number of any kind is read as it was written. -/
theorem value_numberText (depth fuel : Nat) (x : Binary64) {rest : List Char}
    (hrest : EndsNumber rest) :
    value depth (fuel + 1) (numberText x ++ rest) = .ok (.float x, rest) := by
  cases x with
  | nan => rfl
  | infinite s => cases s <;> rfl
  | finite s u h =>
    show value depth (fuel + 1) ((Binary64.finite s u h).textChars ++ rest) = _
    rw [value_eq_atom depth fuel ((startsNumber_finite s h).append rest)]
    exact number_finite s h hrest

theorem startsValue_numberText (x : Binary64) : StartsValue (numberText x) := by
  cases x with
  | nan => exact startsValue_cons (by decide)
  | infinite s => cases s <;> exact startsValue_cons (by decide)
  | finite s u h => exact (startsNumber_finite s h).startsValue

/-! ### Lists and objects -/

theorem value_text (depth fuel : Nat) (s : String) (rest : List Char) :
    value depth (fuel + 1) (quoteString s ++ rest) = .ok (.text s, rest) := by
  rw [quoteString_eq, List.cons_append]
  show (string _ [] (_ ++ rest)).map _ = _
  rw [string_quoted]
  rfl

/-- A list is read as its items are. -/
theorem value_bracket {depth fuel : Nat} (hdepth : 0 < depth) (k : Nat) {text rest : List Char}
    {vs : List Value} (hstart : StartsValue text)
    (hitems : items (depth - 1) fuel text = .ok (vs, rest)) :
    value depth (fuel + 1) ('[' :: (newLine k ++ text)) = .ok (.list vs, rest) := by
  have hskip : skipBlanks (newLine k ++ text) = text := by
    rw [skipBlanks_newLine, skipBlanks_of_startsValue hstart]
  obtain ⟨c, tail, rfl, -, -, -, -, hbracket, -⟩ := hstart
  show (if depth = 0 then _ else _) = _
  rw [if_neg (Nat.ne_of_gt hdepth), hskip]
  split
  · next heq => exact absurd (List.cons.inj heq).1 hbracket
  · rw [hitems]
    rfl

theorem value_emptyList {depth : Nat} (hdepth : 0 < depth) (fuel : Nat) (rest : List Char) :
    value depth (fuel + 1) ('[' :: ']' :: rest) = .ok (.list [], rest) := by
  have hskip : skipBlanks (']' :: rest) = ']' :: rest := skipBlanks_cons rest (by decide)
  show (if depth = 0 then _ else _) = _
  rw [if_neg (Nat.ne_of_gt hdepth), hskip]
  rfl

theorem value_emptyTable {depth : Nat} (hdepth : 0 < depth) (fuel : Nat) (rest : List Char) :
    value depth (fuel + 1) ('\x7b' :: '\x7d' :: rest) = .ok (.table [], rest) := by
  have hskip : skipBlanks ('\x7d' :: rest) = '\x7d' :: rest := skipBlanks_cons rest (by decide)
  show (if depth = 0 then _ else _) = _
  rw [if_neg (Nat.ne_of_gt hdepth), hskip]
  rfl

/-- An object is read as its members are. -/
theorem value_brace {depth fuel : Nat} (hdepth : 0 < depth) (k : Nat) {text rest : List Char}
    {fs : List (String × Value)}
    (hmembers : members (depth - 1) fuel ('"' :: text) = .ok (fs, rest)) :
    value depth (fuel + 1) ('\x7b' :: (newLine k ++ '"' :: text)) =
      .ok (.table (Fields.ofList fs), rest) := by
  have hskip : skipBlanks (newLine k ++ '"' :: text) = '"' :: text := by
    rw [skipBlanks_newLine, skipBlanks_cons _ (by decide)]
  show (if depth = 0 then _ else _) = _
  rw [if_neg (Nat.ne_of_gt hdepth), hskip]
  show (members (depth - 1) fuel ('"' :: text)).map _ = _
  rw [hmembers]
  rfl

theorem items_last {depth fuel : Nat} (k : Nat) {text rest : List Char} {v : Value}
    (hvalue : value depth fuel text = .ok (v, newLine k ++ ']' :: rest)) :
    items depth (fuel + 1) text = .ok ([v], rest) := by
  rw [items, hvalue]
  dsimp only
  rw [skipBlanks_newLine, skipBlanks_cons _ (by decide)]
  rfl

theorem items_more {depth fuel : Nat} (k : Nat) {text more rest : List Char} {v : Value}
    {vs : List Value} (hvalue : value depth fuel text = .ok (v, ',' :: (newLine k ++ more)))
    (hstart : StartsValue more) (hitems : items depth fuel more = .ok (vs, rest)) :
    items depth (fuel + 1) text = .ok (v :: vs, rest) := by
  rw [items, hvalue]
  dsimp only
  rw [skipBlanks_cons _ (by decide)]
  show (items depth fuel (skipBlanks (newLine k ++ more))).map _ = _
  rw [skipBlanks_newLine, skipBlanks_of_startsValue hstart, hitems]
  rfl

/-- The text of a member. -/
def memberChars (name : String) (text : List Char) : List Char :=
  quoteString name ++ ": ".toList ++ text

theorem memberChars_append (name : String) (text rest : List Char) :
    memberChars name text ++ rest = '"' :: ((name.toList.flatMap escapeChar ++ ['"']) ++
      ':' :: ' ' :: (text ++ rest)) := by
  simp [memberChars, quoteString]

theorem members_last {depth fuel : Nat} (k : Nat) {text rest : List Char} {name : String}
    {v : Value} (hstart : StartsValue text)
    (hvalue : value depth fuel (text ++ (newLine k ++ '\x7d' :: rest)) =
      .ok (v, newLine k ++ '\x7d' :: rest)) :
    members depth (fuel + 1) (memberChars name text ++ (newLine k ++ '\x7d' :: rest)) =
      .ok ([(name, v)], rest) := by
  have hskip : skipBlanks (':' :: ' ' :: (text ++ (newLine k ++ '\x7d' :: rest))) =
      ':' :: ' ' :: (text ++ (newLine k ++ '\x7d' :: rest)) := skipBlanks_cons _ (by decide)
  have hclose : skipBlanks (newLine k ++ '\x7d' :: rest) = '\x7d' :: rest := by
    rw [skipBlanks_newLine, skipBlanks_cons _ (by decide)]
  rw [memberChars_append, members, string_quoted]
  simp only [hskip, skipBlanks_space, skipBlanks_of_startsValue (hstart.append _), hvalue, hclose]

theorem members_more {depth fuel : Nat} (k : Nat) {text more rest : List Char} {name : String}
    {v : Value} {fs : List (String × Value)} (hstart : StartsValue text)
    (hvalue : value depth fuel (text ++ ',' :: (newLine k ++ '"' :: more)) =
      .ok (v, ',' :: (newLine k ++ '"' :: more)))
    (hmembers : members depth fuel ('"' :: more) = .ok (fs, rest)) :
    members depth (fuel + 1) (memberChars name text ++ ',' :: (newLine k ++ '"' :: more)) =
      .ok ((name, v) :: fs, rest) := by
  have hskip : skipBlanks (':' :: ' ' :: (text ++ ',' :: (newLine k ++ '"' :: more))) =
      ':' :: ' ' :: (text ++ ',' :: (newLine k ++ '"' :: more)) := skipBlanks_cons _ (by decide)
  have hcomma :
      skipBlanks (',' :: (newLine k ++ '"' :: more)) = ',' :: (newLine k ++ '"' :: more) :=
    skipBlanks_cons _ (by decide)
  have hnext : skipBlanks (newLine k ++ '"' :: more) = '"' :: more := by
    rw [skipBlanks_newLine, skipBlanks_cons _ (by decide)]
  rw [memberChars_append, members, string_quoted]
  simp only [hskip, skipBlanks_space, skipBlanks_of_startsValue (hstart.append _), hvalue, hcomma,
    hnext, hmembers]
  rfl

/-! ### Readable values -/

mutual

/-- Whether a value is read as it was written, with lists and objects at most `depth` deep. -/
def Readable : Nat → Value → Prop
  | _, .null => True
  | _, .bool _ => True
  | _, .int n => (natDigits n.natAbs).length ≤ Integer.digitLimit
  | _, .float _ => True
  | _, .decimal _ => False
  | _, .text _ => True
  | depth, .list vs => 0 < depth ∧ ReadableItems (depth - 1) vs
  | depth, .table fs => 0 < depth ∧ (fs.map Prod.fst).Nodup ∧ ReadableFields (depth - 1) fs

/-- Whether each of the items is read as it was written. -/
def ReadableItems : Nat → List Value → Prop
  | _, [] => True
  | depth, v :: vs => Readable depth v ∧ ReadableItems depth vs

/-- Whether the value of each of the members is read as it was written. -/
def ReadableFields : Nat → List (String × Value) → Prop
  | _, [] => True
  | depth, f :: fs => Readable depth f.2 ∧ ReadableFields depth fs

end

theorem readableItems_iff {depth : Nat} {vs : List Value} :
    ReadableItems depth vs ↔ ∀ v ∈ vs, Readable depth v := by
  induction vs with
  | nil => simp [ReadableItems]
  | cons v vs ih => simp [ReadableItems, ih]

theorem readableFields_iff {depth : Nat} {fs : List (String × Value)} :
    ReadableFields depth fs ↔ ∀ f ∈ fs, Readable depth f.2 := by
  induction fs with
  | nil => simp [ReadableFields]
  | cons f fs ih => simp only [ReadableFields, ih, List.forall_mem_cons]

/-! ### Values -/

theorem startsValue_quoteString (s : String) : StartsValue (quoteString s) :=
  startsValue_cons (by decide)

theorem startsValue_renderAt (k : Nat) (v : Value) : StartsValue (renderAt k v) := by
  cases v with
  | null => exact startsValue_cons (by decide)
  | bool b => cases b <;> exact startsValue_cons (by decide)
  | int n => exact (startsNumber_integer n).startsValue
  | float x => exact startsValue_numberText x
  | decimal x => exact startsValue_quoteString _
  | text s => exact startsValue_quoteString _
  | list vs => cases vs <;> exact startsValue_cons (by decide)
  | table fs => cases fs <;> exact startsValue_cons (by decide)

theorem length_renderAt_pos (k : Nat) (v : Value) : 0 < (renderAt k v).length := by
  obtain ⟨c, rest, h, -⟩ := startsValue_renderAt k v
  rw [h]
  exact Nat.zero_lt_succ _

theorem endsNumber_newLine (k : Nat) (rest : List Char) : EndsNumber (newLine k ++ rest) :=
  endsNumber_cons (by decide) (by decide)

theorem endsNumber_comma (rest : List Char) : EndsNumber (',' :: rest) :=
  endsNumber_cons (by decide) (by decide)

/-- The items of a list, one on a line. -/
def itemsText (k : Nat) (vs : List Value) : List Char :=
  List.intercalate (',' :: newLine k) (renderItems k vs)

/-- The members of an object, one on a line. -/
def membersText (k : Nat) (fs : List (String × Value)) : List Char :=
  List.intercalate (',' :: newLine k) (renderFields k fs)

theorem itemsText_singleton (k : Nat) (v : Value) : itemsText k [v] = renderAt k v :=
  List.intercalate_singleton

theorem itemsText_cons (k : Nat) (v w : Value) (vs : List Value) :
    itemsText k (v :: w :: vs) = renderAt k v ++ ',' :: (newLine k ++ itemsText k (w :: vs)) :=
  List.intercalate_cons_cons.trans (List.append_assoc ..)

theorem startsValue_itemsText (k : Nat) (v : Value) (vs : List Value) :
    StartsValue (itemsText k (v :: vs)) := by
  cases vs with
  | nil => exact itemsText_singleton k v ▸ startsValue_renderAt k v
  | cons w vs => exact itemsText_cons k v w vs ▸ (startsValue_renderAt k v).append _

theorem membersText_singleton (k : Nat) (name : String) (v : Value) :
    membersText k [(name, v)] = memberChars name (renderAt k v) :=
  List.intercalate_singleton

theorem membersText_cons (k : Nat) (name : String) (v : Value) (f : String × Value)
    (fs : List (String × Value)) :
    membersText k ((name, v) :: f :: fs) =
      memberChars name (renderAt k v) ++ ',' :: (newLine k ++ membersText k (f :: fs)) :=
  List.intercalate_cons_cons.trans (List.append_assoc ..)

theorem length_memberChars (name : String) (text : List Char) :
    text.length < (memberChars name text).length := by
  simp only [memberChars, quoteString, List.length_append, List.length_cons]
  omega

/-- The members of an object begin with the quote of a name. -/
theorem exists_membersText (k : Nat) (f : String × Value) (fs : List (String × Value)) :
    ∃ text, membersText k (f :: fs) = '"' :: text := by
  obtain ⟨name, v⟩ := f
  cases fs with
  | nil => exact ⟨_, membersText_singleton k name v⟩
  | cons g fs => exact ⟨_, membersText_cons k name v g fs⟩

theorem renderAt_list (k : Nat) (v : Value) (vs : List Value) (rest : List Char) :
    renderAt k (.list (v :: vs)) ++ rest =
      '[' :: (newLine (k + 1) ++ (itemsText (k + 1) (v :: vs) ++ (newLine k ++ ']' :: rest))) := by
  simp [renderAt, renderItems, bracketed, itemsText]

theorem renderAt_table (k : Nat) (f : String × Value) (fs : List (String × Value))
    (rest : List Char) :
    renderAt k (.table (f :: fs)) ++ rest =
      '\x7b' :: (newLine (k + 1) ++
        (membersText (k + 1) (f :: fs) ++ (newLine k ++ '\x7d' :: rest))) := by
  simp [renderAt, renderFields, bracketed, membersText]

theorem length_itemsText (k : Nat) (v : Value) (vs : List Value) :
    (itemsText (k + 1) (v :: vs)).length + 1 < (renderAt k (.list (v :: vs))).length := by
  have htext := renderAt_list k v vs []
  rw [List.append_nil] at htext
  rw [htext]
  simp only [List.length_cons, List.length_append]
  omega

theorem length_membersText (k : Nat) (f : String × Value) (fs : List (String × Value)) :
    (membersText (k + 1) (f :: fs)).length + 1 < (renderAt k (.table (f :: fs))).length := by
  have htext := renderAt_table k f fs []
  rw [List.append_nil] at htext
  rw [htext]
  simp only [List.length_cons, List.length_append]
  omega

-- The induction is on the fuel: a text takes no more of it than it is long, and the parts of a list
-- or an object are shorter than the whole by its brackets.
mutual

/-- A readable value is read as it was written, up to what follows it. -/
theorem value_renderAt : ∀ (v : Value) (depth fuel k : Nat) (rest : List Char),
    Readable depth v → (renderAt k v).length ≤ fuel → EndsNumber rest →
      value depth fuel (renderAt k v ++ rest) = .ok (v, rest)
  | v, _, 0, k, _, _, hfuel, _ => by
    have hpos := length_renderAt_pos k v
    omega
  | .null, _, _ + 1, _, _, _, _, _ => rfl
  | .bool true, _, _ + 1, _, _, _, _, _ => rfl
  | .bool false, _, _ + 1, _, _, _, _, _ => rfl
  | .int n, depth, fuel + 1, _, rest, hv, _, hrest => by
    rw [renderAt, value_eq_atom depth fuel ((startsNumber_integer n).append rest)]
    exact number_integer n hv hrest
  | .float x, depth, fuel + 1, _, _, _, _, hrest => value_numberText depth fuel x hrest
  | .decimal _, _, _ + 1, _, _, hv, _, _ => hv.elim
  | .text s, depth, fuel + 1, _, rest, _, _, _ => value_text depth fuel s rest
  | .list [], _, fuel + 1, _, rest, hv, _, _ => value_emptyList hv.1 fuel rest
  | .list (v :: vs), depth, fuel + 1, k, rest, hv, hfuel, _ => by
    have hlength := length_itemsText k v vs
    have hitems := items_itemsText v vs (depth - 1) fuel (k + 1) k rest hv.2 (by omega)
    rw [renderAt_list]
    exact value_bracket hv.1 (k + 1) ((startsValue_itemsText _ v vs).append _) hitems
  | .table [], _, fuel + 1, _, rest, hv, _, _ => value_emptyTable hv.1 fuel rest
  | .table ((name, v) :: fs), depth, fuel + 1, k, rest, hv, hfuel, _ => by
    obtain ⟨hdepth, hnodup, hfields⟩ := hv
    have hlength := length_membersText k (name, v) fs
    have hmembers :=
      members_membersText name v fs (depth - 1) fuel (k + 1) k rest hfields (by omega)
    obtain ⟨text, htext⟩ := exists_membersText (k + 1) (name, v) fs
    rw [htext] at hmembers
    rw [renderAt_table, htext, List.cons_append]
    rw [List.cons_append] at hmembers
    rw [value_brace hdepth (k + 1) hmembers, Fields.ofList_of_nodup hnodup]
termination_by structural _ _ fuel => fuel

/-- Readable items are read up to the bracket behind them. -/
theorem items_itemsText : ∀ (v : Value) (vs : List Value) (depth fuel k j : Nat)
    (rest : List Char), ReadableItems depth (v :: vs) → (itemsText k (v :: vs)).length < fuel →
      items depth fuel (itemsText k (v :: vs) ++ (newLine j ++ ']' :: rest)) = .ok (v :: vs, rest)
  | _, _, _, 0, _, _, _, _, hfuel => absurd hfuel (Nat.not_lt_zero _)
  | v, [], depth, fuel + 1, k, j, rest, hv, hfuel => by
    rw [itemsText_singleton] at hfuel ⊢
    exact items_last j
      (value_renderAt v depth fuel k _ hv.1 (Nat.le_of_lt_succ hfuel) (endsNumber_newLine j _))
  | v, w :: vs, depth, fuel + 1, k, j, rest, hv, hfuel => by
    rw [itemsText_cons, List.length_append, List.length_cons, List.length_append] at hfuel
    have hvalue := value_renderAt v depth fuel k
      (',' :: (newLine k ++ (itemsText k (w :: vs) ++ (newLine j ++ ']' :: rest)))) hv.1 (by omega)
      (endsNumber_comma _)
    have hitems := items_itemsText w vs depth fuel k j rest hv.2 (by omega)
    rw [itemsText_cons, List.append_assoc, List.cons_append, List.append_assoc]
    exact items_more k hvalue ((startsValue_itemsText k w vs).append _) hitems
termination_by structural _ _ _ fuel => fuel

/-- Readable members are read up to the brace behind them. -/
theorem members_membersText : ∀ (name : String) (v : Value) (fs : List (String × Value))
    (depth fuel k j : Nat) (rest : List Char), ReadableFields depth ((name, v) :: fs) →
      (membersText k ((name, v) :: fs)).length < fuel →
      members depth fuel (membersText k ((name, v) :: fs) ++ (newLine j ++ '\x7d' :: rest)) =
        .ok ((name, v) :: fs, rest)
  | _, _, _, _, 0, _, _, _, _, hfuel => absurd hfuel (Nat.not_lt_zero _)
  | name, v, [], depth, fuel + 1, k, j, rest, hv, hfuel => by
    have hlength := length_memberChars name (renderAt k v)
    rw [membersText_singleton] at hfuel ⊢
    exact members_last j (startsValue_renderAt k v)
      (value_renderAt v depth fuel k _ hv.1 (by omega) (endsNumber_newLine j _))
  | name, v, (name', w) :: fs, depth, fuel + 1, k, j, rest, hv, hfuel => by
    have hlength := length_memberChars name (renderAt k v)
    rw [membersText_cons, List.length_append, List.length_cons, List.length_append] at hfuel
    have hmembers := members_membersText name' w fs depth fuel k j rest hv.2 (by omega)
    obtain ⟨text, htext⟩ := exists_membersText k (name', w) fs
    rw [membersText_cons, List.append_assoc, List.cons_append, List.append_assoc, htext,
      List.cons_append]
    rw [htext, List.cons_append] at hmembers
    have hvalue := value_renderAt v depth fuel k
      (',' :: (newLine k ++ '"' :: (text ++ (newLine j ++ '\x7d' :: rest)))) hv.1 (by omega)
      (endsNumber_comma _)
    exact members_more k (startsValue_renderAt k v) hvalue hmembers
termination_by structural _ _ _ _ fuel => fuel

end

/-! ### Whole texts -/

/-- A readable value is the value of its text, blanks at the end included. -/
theorem parseAll_renderAt {v : Value} (hv : Readable greatestDepth v) :
    parseAll (renderAt 0 v ++ ['\n']) = .ok v := by
  have hstart := (startsValue_renderAt 0 v).append ['\n']
  have hvalue := value_renderAt v greatestDepth (2 * (renderAt 0 v ++ ['\n']).length + 2) 0 ['\n']
    hv (by rw [List.length_append]; omega) (endsNumber_newLine 0 [])
  unfold parseAll
  have hmark : (renderAt 0 v ++ ['\n']).head? ≠ some '\ufeff' := by
    obtain ⟨c, tail, heq, -, -, -, -, -, hmark⟩ := hstart
    rw [heq]
    exact fun hhead => hmark (Option.some.inj hhead)
  rw [if_neg hmark, skipBlanks_of_startsValue hstart, hvalue]
  rfl

/-- A readable value is read as it was written. -/
theorem read_render {v : Value} (hv : Readable greatestDepth v) :
    read (render v ++ "\n") = .ok v := by
  have htext : (render v ++ "\n").toList = renderAt 0 v ++ ['\n'] := by
    rw [String.toList_append, render, String.toList_ofList]
    rfl
  rw [read, htext, parseAll_renderAt hv]
  rfl

end SpendingLedger.Json
