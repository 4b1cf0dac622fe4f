import SpendingLedger.Proofs.Category.Cascade
import SpendingLedger.Proofs.Query.Comparison
import SpendingLedger.Proofs.Query.Mention
import SpendingLedger.Proofs.Text.Sigma

/-!
# What stands in a description as it is written

Texts are compared in lower case, and both are lowered as wholes.  What stands in a description just
as it is written is then found, by a search as well as by a keyword, if its capital sigmas keep
their form when it is lowered by itself.  At the beginning and at the end of a description it is
found only then: a word that ends in a capital sigma is not found where the word of the description
goes on.

## Main definitions

* `StandsIn` — whether a text stands in another one as it is written, with its capital sigmas kept.
* `Resolution.RestsOnHits` — whether a category was found by keywords.

## Main results

* `Query.evalTerm_description` — what a comparison of the description says.
* `Query.evalTerm_contains`, `Query.evalTerm_startsWith`, `Query.evalTerm_endsWith` — what a search
  finds of a value in its place.
* `hits_of_standsIn` — a keyword that stands in a description is counted.
* `found_of_keepsSigmas` — **what is found of that which stands in a description.**
-/

namespace SpendingLedger

open Text (isSpace lowerChars KeepsSigmas)

/-! ### Comparisons of the description -/

namespace Query

variable {op : Comparator} {holds : List Char → List Char → Bool} {value : String}
  {t : Transaction}

/-- The name of the description, a comparator for texts and a value without space compare the
description with the value, both in lower case. -/
theorem evalTerm_description (hholds : op.onTexts? = some holds) (hne : value ≠ "")
    (hspace : ∀ c ∈ value.toList, isSpace c = false) (today : Date) (t : Transaction) :
    evalTerm today ("description" ++ op.text ++ value) t =
      .ok (holds (lowerChars t.descriptionText.toList) (lowerChars value.toList)) := by
  have hletters : ∀ c ∈ "description".toList, Comparison.isFieldChar c = true :=
    List.all_eq_true.1 (by decide)
  have hterm : ∀ c ∈ ("description" ++ op.text ++ value).toList, isSpace c = false :=
    Comparison.isSpace_of_mem_text (c := ⟨"description", op, value⟩) hletters hspace
  have hsplits : (⟨"description", op, value⟩ : Comparison).Splits
      ("description" ++ op.text ++ value) :=
    ⟨(by decide : "description" ≠ ""), hletters, hne, rfl⟩
  -- only comparators of amounts and dates are continued by a sign of equality
  have hop : ¬op.IsShort := by
    rintro (rfl | rfl) <;> cases hholds
  have hread : Comparison.ofText? ("description" ++ op.text ++ value) =
      some ⟨"description", op, value⟩ :=
    (hsplits.ofText?_iff hterm).2 fun hcontinued => hop hcontinued.1
  have hfield : Text.lower "description" = "description" := by decide +kernel
  have hvalue := hsplits.trim_value hterm
  unfold evalTerm
  rw [hread]
  unfold Comparison.eval
  dsimp only
  rw [hfield, hvalue, if_neg (by decide), if_neg (by decide), if_pos rfl, textCondition, hholds]

variable {left right : List Char}

/-- A value that stands in a description with its capital sigmas kept is found there. -/
theorem evalTerm_contains (hne : value ≠ "") (hspace : ∀ c ∈ value.toList, isSpace c = false)
    (hplace : t.descriptionText.toList = left ++ value.toList ++ right)
    (hkept : KeepsSigmas left value.toList right) (today : Date) :
    evalTerm today ("description:" ++ value) t = .ok true := by
  have heval := evalTerm_description (rfl : Comparator.onTexts? .contains = _) hne hspace today t
  refine heval.trans (congrArg Except.ok ?_)
  rw [hplace]
  exact hkept.occursIn

/-- A value that begins a description is found there exactly if its capital sigmas are kept. -/
theorem evalTerm_startsWith (hne : value ≠ "") (hspace : ∀ c ∈ value.toList, isSpace c = false)
    (hplace : t.descriptionText.toList = value.toList ++ right) (today : Date) :
    ∃ found, evalTerm today ("description^=" ++ value) t = .ok found ∧
      (found = true ↔ KeepsSigmas [] value.toList right) := by
  have heval := evalTerm_description (rfl : Comparator.onTexts? .startsWith = _) hne hspace today t
  refine ⟨_, heval, ?_⟩
  rw [List.isPrefixOf_iff_prefix, hplace]
  exact Text.isPrefix_lowerChars_iff

/-- A value that ends a description is found there exactly if its capital sigmas are kept. -/
theorem evalTerm_endsWith (hne : value ≠ "") (hspace : ∀ c ∈ value.toList, isSpace c = false)
    (hplace : t.descriptionText.toList = left ++ value.toList) (today : Date) :
    ∃ found, evalTerm today ("description$=" ++ value) t = .ok found ∧
      (found = true ↔ KeepsSigmas left value.toList []) := by
  have heval := evalTerm_description (rfl : Comparator.onTexts? .endsWith = _) hne hspace today t
  refine ⟨_, heval, ?_⟩
  rw [List.isSuffixOf_iff_suffix, hplace]
  exact Text.isSuffix_lowerChars_iff

end Query

/-! ### Keywords -/

/-- Whether `part` stands somewhere in `whole` as it is written, with its capital sigmas kept. -/
def StandsIn (part whole : List Char) : Prop :=
  ∃ left right, whole = left ++ part ++ right ∧ KeepsSigmas left part right

theorem occursIn_of_standsIn {part whole : List Char} (h : StandsIn part whole) :
    Text.occursIn (lowerChars part) (lowerChars whole) = true := by
  obtain ⟨left, right, rfl, hkept⟩ := h
  exact hkept.occursIn

/-- A keyword that stands in a description is counted. -/
theorem hits_of_standsIn {keyword : String} {description : Option String} (hne : keyword ≠ "")
    (h : StandsIn keyword.toList (description.getD "").toList) :
    CategoryEntry.Hits keyword (loweredText description) :=
  ⟨hne, occursIn_of_standsIn h⟩

/-- The keywords that are in a text are counted one by one. -/
theorem CategoryEntry.length_le_hitCount {e : CategoryEntry} {text : List Char}
    {keywords : List String} (hsub : keywords.Sublist e.keywords)
    (hhits : ∀ k ∈ keywords, Hits k text) : keywords.length ≤ e.hitCount text := by
  rw [hitCount_eq]
  calc keywords.length
      = keywords.countP (Hits · text) := by
        refine (List.countP_eq_length.2 fun k hk => ?_).symm
        exact decide_eq_true (hhits k hk)
    _ ≤ e.keywords.countP (Hits · text) := hsub.countP_le

namespace Resolution

variable {text : List Char} {entries : List CategoryEntry} {threshold : Binary64}

/-- Whether a category was found by keywords, alone or with what breaks a tie. -/
def RestsOnHits : Resolution → Prop
  | .tally .. | .mention .. | .similarAmongTied .. | .firstHit .. => True
  | .similarName .. | .unresolved => False

/-- Where a keyword is in a text, its category is found by keywords. -/
theorem restsOnHits_of_isHit (h : ∃ e ∈ entries, e.IsHit text) :
    (ofText text entries threshold).RestsOnHits := by
  obtain ⟨e, he, hhit⟩ := h
  have hsome : top text entries ≠ [] := fun hnone =>
    CategoryEntry.hitCount_eq_zero_iff.1 (top_eq_nil_iff.1 hnone e he) hhit
  generalize hr : ofText text entries threshold = r
  cases ofText_eq_iff.1 hr with
  | tally | mention | similarAmongTied | firstHit => trivial
  | similarName hnone _ => exact absurd hnone hsome
  | unresolved hnone _ => exact absurd hnone hsome

end Resolution

/-! ### What is found -/

/-- **What stands in a description as it is written is found, if its capital sigmas keep their
form.**  A value that stands in a description with its capital sigmas kept is found there.  One that
the description begins or ends with is found at that end exactly if they are kept.  Keywords that
stand in a description with their capital sigmas kept are counted one by one, and the category is
then found by keywords. -/
theorem found_of_keepsSigmas (t : Transaction) :
    (∀ (value : String) (left right : List Char), value ≠ "" →
      (∀ c ∈ value.toList, isSpace c = false) →
      t.descriptionText.toList = left ++ value.toList ++ right → ∀ today,
        (KeepsSigmas left value.toList right →
          Query.evalTerm today ("description:" ++ value) t = .ok true) ∧
        (left = [] → ∃ found, Query.evalTerm today ("description^=" ++ value) t = .ok found ∧
          (found = true ↔ KeepsSigmas [] value.toList right)) ∧
        (right = [] → ∃ found, Query.evalTerm today ("description$=" ++ value) t = .ok found ∧
          (found = true ↔ KeepsSigmas left value.toList []))) ∧
    ∀ (d : CategoryDictionary) (threshold : Binary64), ∀ e ∈ d.entries,
      ∀ keywords : List String, keywords.Sublist e.keywords →
        (∀ k ∈ keywords, k ≠ "" ∧ StandsIn k.toList t.descriptionText.toList) →
        keywords.length ≤ e.hitCount (loweredText t.description) ∧
          (keywords ≠ [] → (resolve t.description d threshold).RestsOnHits) := by
  refine ⟨fun value left right hne hspace hplace today => ⟨fun hkept => ?_, ?_, ?_⟩,
    fun d threshold e he keywords hsub hstand => ?_⟩
  · exact Query.evalTerm_contains hne hspace hplace hkept today
  · rintro rfl
    rw [List.nil_append] at hplace
    exact Query.evalTerm_startsWith hne hspace hplace today
  · rintro rfl
    rw [List.append_nil] at hplace
    exact Query.evalTerm_endsWith hne hspace hplace today
  · have hhits : ∀ k ∈ keywords, CategoryEntry.Hits k (loweredText t.description) :=
      fun k hk => hits_of_standsIn (hstand k hk).1 (hstand k hk).2
    refine ⟨CategoryEntry.length_le_hitCount hsub hhits, fun hne => ?_⟩
    obtain ⟨k, hk⟩ := List.exists_mem_of_ne_nil _ hne
    exact Resolution.restsOnHits_of_isHit ⟨e, he, k, hsub.subset hk, hhits k hk⟩

/-- A word that ends in a capital sigma is found where it ends a word of the description too, at its
beginning and at its end. -/
theorem found_of_keepsSigmas_whole_words :
    let t := Query.described "ΟΔΟΣ ΟΔΟΣ"
    let d : CategoryDictionary := ⟨[⟨"Roads", ["ΟΔΟΣ"]⟩], by decide⟩
    let word := "ΟΔΟΣ"
    word ≠ "" ∧ (∀ c ∈ word.toList, isSpace c = false) ∧
      t.descriptionText.toList = [] ++ word.toList ++ " ΟΔΟΣ".toList ∧
      t.descriptionText.toList = "ΟΔΟΣ ".toList ++ word.toList ++ [] ∧
      KeepsSigmas [] word.toList " ΟΔΟΣ".toList ∧ StandsIn word.toList t.descriptionText.toList ∧
      (∀ today, Query.evalTerm today "description:ΟΔΟΣ" t = .ok true) ∧
      (∀ today, Query.evalTerm today "description^=ΟΔΟΣ" t = .ok true) ∧
      (∀ today, Query.evalTerm today "description$=ΟΔΟΣ" t = .ok true) ∧
      (resolve t.description d defaultNameThreshold).RestsOnHits := by
  intro t d word
  have hne : word ≠ "" := by decide
  have hspace : ∀ c ∈ word.toList, isSpace c = false := by simp [word, isSpace, Text.isWhite]
  have hbegin : t.descriptionText.toList = [] ++ word.toList ++ " ΟΔΟΣ".toList := by decide
  have hend : t.descriptionText.toList = "ΟΔΟΣ ".toList ++ word.toList ++ [] := by decide
  have hkept : KeepsSigmas [] word.toList " ΟΔΟΣ".toList :=
    Text.keepsSigmas_of_nextIsCased_eq_false (by decide) (by decide +kernel)
  have hkept' : KeepsSigmas "ΟΔΟΣ ".toList word.toList [] :=
    Text.keepsSigmas_of_nextIsCased_eq_false (by decide +kernel) (by decide)
  have hstands : StandsIn word.toList t.descriptionText.toList := ⟨_, _, hbegin, hkept⟩
  obtain ⟨hsearch, hkeywords⟩ := found_of_keepsSigmas t
  have hfirst := hsearch word [] " ΟΔΟΣ".toList hne hspace hbegin
  have hlast := hsearch word "ΟΔΟΣ ".toList [] hne hspace hend
  refine ⟨hne, hspace, hbegin, hend, hkept, hstands, fun today => (hfirst today).1 hkept,
    fun today => ?_, fun today => ?_, ?_⟩
  · obtain ⟨found, heval, hfound⟩ := (hfirst today).2.1 rfl
    exact heval.trans (congrArg Except.ok (hfound.2 hkept))
  · obtain ⟨found, heval, hfound⟩ := (hlast today).2.2 rfl
    exact heval.trans (congrArg Except.ok (hfound.2 hkept'))
  · refine (hkeywords d defaultNameThreshold ⟨"Roads", ["ΟΔΟΣ"]⟩ List.mem_cons_self [word]
      (List.Sublist.refl _) ?_).2 (List.cons_ne_nil _ _)
    simpa using ⟨hne, hstands⟩

/-- A word that ends in a capital sigma is not found where the word of the description goes on, and
a capital sigma alone is not found at the end of a word. -/
theorem not_found_of_final_sigma :
    let t := Query.described "ΟΔΟΣΑ"
    let d : CategoryDictionary := ⟨[⟨"Roads", ["ΟΔΟΣ"]⟩], by decide⟩
    "ΟΔΟΣ".toList <+: t.descriptionText.toList ∧
      (∀ today, Query.evalTerm today "description:ΟΔΟΣ" t = .ok false) ∧
      (∀ today, Query.evalTerm today "description^=ΟΔΟΣ" t = .ok false) ∧
      resolve t.description d defaultNameThreshold = .unresolved ∧
      "Σ".toList <:+ (Query.described "ΟΔΟΣ").descriptionText.toList ∧
      ∀ today, Query.evalTerm today "description$=Σ" (Query.described "ΟΔΟΣ") = .ok false := by
  intro t d
  have hspace : ∀ c ∈ "ΟΔΟΣ".toList, isSpace c = false := by simp [isSpace, Text.isWhite]
  have hsigma : ∀ c ∈ "Σ".toList, isSpace c = false := by simp [isSpace, Text.isWhite]
  refine ⟨by decide, fun today => ?_, fun today => ?_, by decide +kernel, by decide,
    fun today => ?_⟩
  · have heval := Query.evalTerm_description (rfl : Query.Comparator.onTexts? .contains = _)
      (by decide) hspace today t
    exact heval.trans (congrArg Except.ok (by decide +kernel))
  · have heval := Query.evalTerm_description (rfl : Query.Comparator.onTexts? .startsWith = _)
      (by decide) hspace today t
    exact heval.trans (congrArg Except.ok (by decide +kernel))
  · have heval := Query.evalTerm_description (rfl : Query.Comparator.onTexts? .endsWith = _)
      (by decide) hsigma today (Query.described "ΟΔΟΣ")
    exact heval.trans (congrArg Except.ok (by decide +kernel))

end SpendingLedger
