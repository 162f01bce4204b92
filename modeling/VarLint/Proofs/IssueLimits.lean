import VarLint.Proofs.Accounting

/-!
# Which issues the limits leave

The limits cut the list of issues twice: first at a number of issues, then at a number of issues of
one text, where only the issues that are kept are counted. Both cuts can be read off the list as it
was:

* `atMostSame_eq`: an issue is kept exactly if few enough of its text stand before it, kept or not.
  The induction carries `count_kept`: the kept ones of a text are those before, up to the limit.
* `limit_eq`: so the limits leave the issues that are shown (`isShown`), in their order.
* `isShown_mono`: weaker limits show more.
* `limits_exact`: what a run lists, what it drops, and how both change with the limits.
-/

namespace VarLint.Findings

/-! ## Limits as conditions on the whole list -/

/-- Whether a limit has room for one more behind `n`; a limit that is not positive always has. -/
def hasRoom (most : Int) (n : Nat) : Bool := most ≤ 0 || (n : Int) < most

/-- The order of limits, by strictness: no limit is the largest. -/
def LimitLe (a b : Int) : Prop := b ≤ 0 ∨ 0 < a ∧ a ≤ b

/-- The number of issues with a text before an index. -/
def sameBefore (issues : List Issue) (index : Nat) (text : Bytes) : Nat :=
  (issues.take index).countP fun i => i.text == text

/-- Whether the limits show the issue at an index: it is among the first issues, and few enough
issues of its text stand before it. -/
def isShown (o : CheckOptions) (issues : List Issue) (x : Issue × Nat) : Bool :=
  hasRoom o.maxIssues x.2 && hasRoom o.maxSame (sameBefore issues x.2 x.1.text)

theorem hasRoom_of_pos {most : Int} (h : 0 < most) (n : Nat) :
    hasRoom most n = decide (n < most.toNat) := by
  unfold hasRoom
  rw [Bool.eq_iff_iff, Bool.or_eq_true, decide_eq_true_eq, decide_eq_true_eq, decide_eq_true_eq]
  omega

theorem hasRoom_of_nonpos {most : Int} (h : ¬0 < most) (n : Nat) : hasRoom most n = true := by
  unfold hasRoom
  rw [Bool.or_eq_true, decide_eq_true_eq]
  omega

theorem hasRoom_mono {a b : Int} (h : LimitLe a b) {n : Nat} (hn : hasRoom a n = true) :
    hasRoom b n = true := by
  unfold hasRoom at hn ⊢
  rw [Bool.or_eq_true, decide_eq_true_eq, decide_eq_true_eq] at hn ⊢
  rcases h with h | ⟨hpos, hle⟩
  · exact .inl h
  · right
    omega

/-! ## The two cuts -/

/-- What an issue adds to the texts that are kept: the kept ones of a text are those seen, up to
`n`. -/
theorem count_kept {n : Nat} {kept : List Bytes} {before : List Issue}
    (h : ∀ t, kept.count t = min n (before.countP fun i => i.text == t)) (i : Issue) (t : Bytes) :
    (if kept.count i.text < n then i.text :: kept else kept).count t =
      min n ((before ++ [i]).countP fun j => j.text == t) := by
  have hi := h i.text
  have ht := h t
  rw [List.countP_append, List.countP_singleton]
  by_cases heq : i.text = t
  · subst heq
    split <;> simp <;> omega
  · split <;> simp [heq] <;> omega

/-- **The second cut** keeps an issue exactly if fewer than `n` of its text stand before it. -/
theorem atMostSame_eq (n : Nat) : ∀ (rest before : List Issue) (kept : List Bytes),
    (∀ t, kept.count t = min n (before.countP fun i => i.text == t)) →
    atMostSame n kept rest =
      ((rest.zipIdx before.length).filter fun x =>
        sameBefore (before ++ rest) x.2 x.1.text < n).map Prod.fst
  | [], _, _, _ => rfl
  | i :: rest, before, kept, h => by
    have hcount := count_kept h i
    have hroom : kept.count i.text < n ↔ before.countP (fun j => j.text == i.text) < n := by
      rw [h]
      omega
    have hbefore : sameBefore (before ++ i :: rest) before.length i.text =
        before.countP fun j => j.text == i.text := by
      rw [sameBefore, List.take_left]
    have ih := atMostSame_eq n rest (before ++ [i])
    rw [List.append_assoc, List.singleton_append, List.length_append, List.length_singleton] at ih
    rw [atMostSame, List.zipIdx_cons, List.filter_cons, hbefore]
    by_cases hkeep : kept.count i.text < n
    · simp only [hkeep, if_true] at hcount
      rw [if_pos hkeep, if_pos (by simpa using hroom.1 hkeep), List.map_cons, ih _ hcount]
    · simp only [hkeep, if_false] at hcount
      rw [if_neg hkeep, if_neg (by simpa using fun hlt => hkeep (hroom.2 hlt)), ih _ hcount]

/-- The first cut keeps the issues at small indices. -/
theorem filter_zipIdx_take (p : Issue × Nat → Bool) : ∀ (issues : List Issue) (m k : Nat),
    ((issues.take m).zipIdx k).filter p =
      (issues.zipIdx k).filter fun x => decide (x.2 < k + m) && p x
  | [], m, k => by simp
  | i :: issues, 0, k => by
    rw [List.take_zero, List.zipIdx_nil, List.filter_nil, eq_comm, List.filter_eq_nil_iff]
    rintro ⟨j, l⟩ hmem
    have := List.le_snd_of_mem_zipIdx hmem
    simp
    omega
  | i :: issues, m + 1, k => by
    have ih := filter_zipIdx_take p issues m (k + 1)
    rw [show k + 1 + m = k + (m + 1) by omega] at ih
    rw [List.take_succ_cons, List.zipIdx_cons, List.zipIdx_cons, List.filter_cons,
      List.filter_cons, ih]
    simp

theorem sameBefore_take {issues : List Issue} {m k : Nat} (h : k < m) (t : Bytes) :
    sameBefore (issues.take m) k t = sameBefore issues k t := by
  rw [sameBefore, List.take_take, Nat.min_eq_left (by omega)]
  rfl

/-- **The limits leave the issues that are shown**, in their order. -/
theorem limit_eq (o : CheckOptions) (issues : List Issue) :
    limit o issues = (issues.zipIdx.filter (isShown o issues)).map Prod.fst := by
  have hall : ∀ l : List Issue, l = (l.zipIdx.filter fun _ => true).map Prod.fst := by simp
  have hsame : ∀ l : List Issue, atMostSame o.maxSame.toNat [] l =
      (l.zipIdx.filter fun x => sameBefore l x.2 x.1.text < o.maxSame.toNat).map Prod.fst :=
    fun l => atMostSame_eq _ l [] [] (by simp)
  unfold limit
  simp only
  by_cases hm : 0 < o.maxIssues
  · by_cases hs : 0 < o.maxSame
    · rw [if_pos hs, if_pos hm, hsame, filter_zipIdx_take]
      refine congrArg _ (List.filter_congr fun x _ => ?_)
      rw [isShown, hasRoom_of_pos hm, hasRoom_of_pos hs, Nat.zero_add]
      by_cases hx : x.2 < o.maxIssues.toNat
      · rw [sameBefore_take hx]
      · simp [hx]
    · rw [if_neg hs, if_pos hm, hall (issues.take _), filter_zipIdx_take]
      refine congrArg _ (List.filter_congr fun x _ => ?_)
      rw [isShown, hasRoom_of_pos hm, hasRoom_of_nonpos hs, Nat.zero_add]
  · by_cases hs : 0 < o.maxSame
    · rw [if_pos hs, if_neg hm, hsame]
      refine congrArg _ (List.filter_congr fun x _ => ?_)
      rw [isShown, hasRoom_of_nonpos hm, hasRoom_of_pos hs, Bool.true_and]
    · rw [if_neg hs, if_neg hm]
      conv_lhs => rw [hall issues]
      refine congrArg _ (List.filter_congr fun x _ => ?_)
      rw [isShown, hasRoom_of_nonpos hm, hasRoom_of_nonpos hs, Bool.true_and]

/-! ## Weaker limits -/

theorem isShown_mono {o o' : CheckOptions} (hm : LimitLe o.maxIssues o'.maxIssues)
    (hs : LimitLe o.maxSame o'.maxSame) {issues : List Issue} {x : Issue × Nat}
    (h : isShown o issues x = true) : isShown o' issues x = true := by
  unfold isShown at h ⊢
  rw [Bool.and_eq_true] at h ⊢
  exact ⟨hasRoom_mono hm h.1, hasRoom_mono hs h.2⟩

theorem limit_sublist_limit {o o' : CheckOptions} (hm : LimitLe o.maxIssues o'.maxIssues)
    (hs : LimitLe o.maxSame o'.maxSame) (issues : List Issue) :
    (limit o issues).Sublist (limit o' issues) := by
  rw [limit_eq, limit_eq]
  exact (List.monotone_filter_right _ fun x hx => isShown_mono hm hs hx).map _

/-- What the limits do not leave is not shown. -/
theorem length_sub_length_limit (o : CheckOptions) (issues : List Issue) :
    (issues.length : Int) - (limit o issues).length =
      issues.zipIdx.countP fun x => !isShown o issues x := by
  have hsplit := List.length_eq_countP_add_countP (isShown o issues) (l := issues.zipIdx)
  rw [List.length_zipIdx] at hsplit
  rw [limit_eq, List.length_map, ← List.countP_eq_length_filter]
  simp only [Bool.not_eq_true, Bool.decide_eq_false] at hsplit
  omega

/-- **Limits keep the right issues.** Of any list of issues they leave, in order, those among the
first `maxIssues` that have fewer than `maxSame` issues of the same text before them. A run lists
what they leave of the issues of all violations and counts the others as truncated. Weaker limits
leave more. -/
theorem limits_exact (o : CheckOptions) :
    (∀ issues : List Issue,
      limit o issues = (issues.zipIdx.filter (isShown o issues)).map Prod.fst) ∧
    (∀ (rule : Rule) (ds : List Declaration),
      let all := issuesOf rule o.effectiveSeverity ds
      (ofDeclarations rule o ds).issues = (all.zipIdx.filter (isShown o all)).map Prod.fst ∧
      (ofDeclarations rule o ds).truncated = all.zipIdx.countP fun x => !isShown o all x) ∧
    ∀ o' : CheckOptions, LimitLe o.maxIssues o'.maxIssues → LimitLe o.maxSame o'.maxSame →
      (∀ issues : List Issue, (limit o issues).Sublist (limit o' issues)) ∧
      (o'.severity = o.severity → ∀ (rule : Rule) (ds : List Declaration),
        (ofDeclarations rule o ds).issues.Sublist (ofDeclarations rule o' ds).issues) := by
  refine ⟨limit_eq o, fun rule ds => ⟨?_, ?_⟩, fun o' hm hs => ⟨limit_sublist_limit hm hs, ?_⟩⟩
  · rw [issues_eq, limit_eq]
  · rw [← length_sub_length_limit, ← issues_eq, truncated_eq, issuesOf, List.length_map]
  · intro hseverity rule ds
    have heffective : o'.effectiveSeverity = o.effectiveSeverity := by
      rw [CheckOptions.effectiveSeverity, CheckOptions.effectiveSeverity, hseverity]
    rw [issues_eq, issues_eq, heffective]
    exact limit_sublist_limit hm hs _

private def issueOf (text : Bytes) (line : Int) : Issue :=
  { linter := Rule.name, text, severity := Severity.error, source := [], file := [], line,
    column := 1, property := [], value := [], literals := [] }

private def repeated : List Issue :=
  [issueOf "color" 1, issueOf "color" 2, issueOf "border" 3, issueOf "color" 4, issueOf "margin" 5]

theorem limits_exact_repeated :
    LimitLe 4 0 ∧ LimitLe 1 2 ∧
      limit { maxIssues := 4, maxSame := 1 } repeated = [issueOf "color" 1, issueOf "border" 3] ∧
      limit { maxSame := 2 } repeated =
        [issueOf "color" 1, issueOf "color" 2, issueOf "border" 3, issueOf "margin" 5] ∧
      (limit { maxIssues := 4, maxSame := 1 } repeated).Sublist
        (limit { maxSame := 2 } repeated) := by
  have hm : LimitLe 4 0 := .inl (by decide)
  have hs : LimitLe 1 2 := .inr (by decide)
  refine ⟨hm, hs, by decide, by decide, ?_⟩
  exact ((limits_exact { maxIssues := 4, maxSame := 1 }).2.2 { maxSame := 2 } hm hs).1 repeated

end VarLint.Findings
