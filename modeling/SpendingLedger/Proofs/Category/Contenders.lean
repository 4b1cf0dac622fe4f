import SpendingLedger.Proofs.Category.Cascade
import SpendingLedger.Proofs.Number.Order

/-!
# The contenders for a category

Where neither the keyword hits nor a mention of a name settle the category of a text, it is left to
the similarity of names.  The contenders are then the categories with the most hits, or all of them
when there is no hit.  The first one with the greatest score leads, whatever the threshold; the
threshold only decides whether the leader is taken.

## Main definitions

* `Resolution.IsSettledOn`, `Resolution.IsSettled` — hits or a mention settle the category.
* `Resolution.contenders` — the categories that are left to be compared by name.
* `Resolution.IsLeader` — a candidate is the first one with the greatest score.
* `Resolution.firstHitName` — the category where no contender is similar enough.

## Main results

* `Resolution.category_of_isSettledOn` — a category that is settled on is found at any threshold.
* `Resolution.bestSimilar_of_isLeader` — the leader is the most similar name, if it is similar
  enough.
* `Resolution.category_of_not_isSettled` — what is not settled goes to the most similar contender,
  else to the first category with a hit.
-/

namespace SpendingLedger

variable {text : List Char} {entries candidates : List CategoryEntry} {threshold : Binary64}
  {e : CategoryEntry}

/-- A score is a number. -/
theorem CategoryEntry.isNaN_nameScore (e : CategoryEntry) (text : List Char) :
    (e.nameScore text).isNaN = false :=
  Binary64.isNaN_ofRatio _ _ _

namespace Resolution

/-! ### Settled categories -/

/-- Whether the keyword hits settle on `e`, or else a mention of its name. -/
inductive IsSettledOn (text : List Char) (entries : List CategoryEntry) (e : CategoryEntry) : Prop
  | tally (htop : top text entries = [e])
  | mention (htied : 1 < (top text entries).length)
    (hone : (top text entries).filter (·.isMentioned text) = [e])

/-- Whether the keyword hits or a mention settle on some category. -/
def IsSettled (text : List Char) (entries : List CategoryEntry) : Prop :=
  ∃ e, IsSettledOn text entries e

/-- A category that is settled on is found at any threshold. -/
theorem category_of_isSettledOn (h : IsSettledOn text entries e) (threshold : Binary64) :
    (ofText text entries threshold).category = e.name := by
  cases h with
  | tally htop => rw [ofText_of_settles (.tally htop)]; rfl
  | mention htied hone => rw [ofText_of_settles (.mention htied hone)]; rfl

/-- What is not settled though there is a hit is a tie, with none or several mentioned. -/
theorem tied_of_not_isSettled (h : ¬ IsSettled text entries) (hsome : top text entries ≠ []) :
    1 < (top text entries).length ∧
      ((top text entries).filter (·.isMentioned text)).length ≠ 1 := by
  have htied : 1 < (top text entries).length := by
    rcases htop : top text entries with _ | ⟨e, _ | ⟨x, rest⟩⟩
    · exact absurd htop hsome
    · exact absurd ⟨e, .tally htop⟩ h
    · simp
  refine ⟨htied, fun hone => ?_⟩
  obtain ⟨e, he⟩ := List.length_eq_one_iff.1 hone
  exact h ⟨e, .mention htied he⟩

/-! ### Leaders -/

/-- Whether `e` is the first of the candidates with the greatest score: those in front of it have
less, and those behind it no more. -/
def IsLeader (text : List Char) (candidates : List CategoryEntry) (e : CategoryEntry) : Prop :=
  ∃ before after, candidates = before ++ e :: after ∧
    (∀ x ∈ before, (x.nameScore text).lt (e.nameScore text) = true) ∧
    ∀ x ∈ after, (x.nameScore text).le (e.nameScore text) = true

theorem IsLeader.mem (h : IsLeader text candidates e) : e ∈ candidates := by
  obtain ⟨before, after, rfl, -, -⟩ := h
  simp

/-- No candidate has a greater score than the leader. -/
theorem IsLeader.le (h : IsLeader text candidates e) {x : CategoryEntry} (hx : x ∈ candidates) :
    (x.nameScore text).le (e.nameScore text) = true := by
  obtain ⟨before, after, rfl, hbefore, hafter⟩ := h
  rcases List.mem_append.1 hx with hx | hx
  · exact Binary64.le_of_lt (hbefore x hx)
  · rcases List.mem_cons.1 hx with rfl | hx
    · exact Binary64.le_refl_of_isNaN (x.isNaN_nameScore text)
    · exact hafter x hx

/-- Where there are candidates, one of them leads. -/
theorem exists_isLeader (hne : candidates ≠ []) : ∃ e, IsLeader text candidates e := by
  induction candidates with
  | nil => exact absurd rfl hne
  | cons x rest ih =>
    by_cases hrest : rest = []
    · subst hrest
      exact ⟨x, [], [], rfl, by simp, by simp⟩
    · obtain ⟨e, hlead⟩ := ih hrest
      rcases Binary64.le_or_lt (e.isNaN_nameScore text) (x.isNaN_nameScore text) with hle | hlt
      · exact ⟨x, [], rest, rfl, by simp, fun y hy => Binary64.le_trans (hlead.le hy) hle⟩
      · obtain ⟨before, after, rfl, hbefore, hafter⟩ := hlead
        refine ⟨e, x :: before, after, rfl, ?_, hafter⟩
        intro y hy
        rcases List.mem_cons.1 hy with rfl | hy
        · exact hlt
        · exact hbefore y hy

/-! ### The most similar name -/

/-- The greater of two scores is taken over and over, and nothing is greater than the first. -/
theorem foldl_greater_eq_self {p : String × Binary64} {rest : List (String × Binary64)}
    (h : ∀ q ∈ rest, q.2.le p.2 = true) :
    rest.foldl (fun best q => if best.2.lt q.2 then q else best) p = p := by
  induction rest with
  | nil => rfl
  | cons q rest ih =>
    obtain ⟨hq, hrest⟩ := List.forall_mem_cons.1 h
    rw [List.foldl_cons, if_neg (Binary64.not_lt_of_le hq)]
    exact ih hrest

/-- The first pair with the greatest score is the one behind which none is greater and in front of
which each is less. -/
theorem bestOf_append_cons {p : String × Binary64} {before after : List (String × Binary64)}
    (hbefore : ∀ q ∈ before, q.2.lt p.2 = true) (hafter : ∀ q ∈ after, q.2.le p.2 = true) :
    bestOf (before ++ p :: after) = some p := by
  cases before with
  | nil =>
    rw [List.nil_append, bestOf, foldl_greater_eq_self hafter]
  | cons q before =>
    rw [List.cons_append, bestOf, List.foldl_append, List.foldl_cons]
    -- what is best of those in front is one of them, so `p` is greater
    rw [if_pos (hbefore _ (foldl_greater_mem q before)), foldl_greater_eq_self hafter]

/-- The leader is the most similar name at a threshold that it reaches, and at one that it does not
reach there is none. -/
theorem bestSimilar_of_isLeader (h : IsLeader text candidates e) (threshold : Binary64) :
    bestSimilar text candidates threshold =
      if threshold.le (e.nameScore text) then some (e.name, e.nameScore text) else none := by
  split
  · next hreached =>
    obtain ⟨before, after, rfl, hbefore, hafter⟩ := h
    rw [bestSimilar, List.map_append, List.map_cons, List.filter_append,
      List.filter_cons_of_pos (by simpa using hreached)]
    refine bestOf_append_cons (fun q hq => ?_) (fun q hq => ?_)
    · obtain ⟨x, hx, rfl⟩ := List.mem_map.1 (List.mem_filter.1 hq).1
      exact hbefore x hx
    · obtain ⟨x, hx, rfl⟩ := List.mem_map.1 (List.mem_filter.1 hq).1
      exact hafter x hx
  · next hmissed =>
    refine bestSimilar_eq_none_iff.2 fun x hx hsimilar => ?_
    exact hmissed (Binary64.le_trans hsimilar (h.le hx))

/-! ### What is left to similarity -/

/-- The categories whose names are compared where nothing else decides: those with the most hits, or
all of them when there is no hit. -/
def contenders (text : List Char) (entries : List CategoryEntry) : List CategoryEntry :=
  if top text entries = [] then entries else top text entries

/-- The name of the first category with a hit, or the one that stands for no category. -/
def firstHitName (text : List Char) (entries : List CategoryEntry) : String :=
  ((entries.find? fun e => 0 < e.hitCount text).map CategoryEntry.name).getD uncategorized

/-- There are contenders unless there are no categories. -/
theorem contenders_eq_nil_iff : contenders text entries = [] ↔ entries = [] := by
  unfold contenders
  split
  · rfl
  · next hsome =>
    refine iff_of_false hsome fun hnil => hsome ?_
    rw [hnil]
    rfl

/-- What is not settled goes to the most similar contender, else to the first category with a
hit. -/
theorem category_of_not_isSettled (h : ¬ IsSettled text entries) (threshold : Binary64) :
    (ofText text entries threshold).category =
      ((bestSimilar text (contenders text entries) threshold).map Prod.fst).getD
        (firstHitName text entries) := by
  by_cases hnone : top text entries = []
  · rw [contenders, if_pos hnone]
    cases hbest : bestSimilar text entries threshold with
    | some p => rw [ofText_of_settles (.similarName hnone hbest)]; rfl
    | none =>
      rw [ofText_of_settles (.unresolved hnone hbest), firstHitName,
        find?_eq_none_of_top_eq_nil hnone]
      rfl
  · obtain ⟨htied, hmany⟩ := tied_of_not_isSettled h hnone
    rw [contenders, if_neg hnone]
    cases hbest : bestSimilar text (top text entries) threshold with
    | some p => rw [ofText_of_settles (.similarAmongTied htied hmany hbest)]; rfl
    | none =>
      obtain ⟨e, he⟩ := List.exists_mem_of_ne_nil _ hnone
      obtain ⟨x, hfirst⟩ := exists_find?_of_mem_top he
      rw [ofText_of_settles (.firstHit htied hmany hbest hfirst), firstHitName, hfirst]
      rfl

end Resolution

end SpendingLedger
