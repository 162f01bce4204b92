import Mathlib.Data.List.Perm.Basic
import Mathlib.Data.Finset.Card
import VarLint.Proofs.Tallies
import VarLint.Scan

/-!
# What a scan returns

* `firstOccurrences_iff`: three conditions determine the kept ones of the distinct elements of a
  list: which elements they are, that none is repeated, and that they stand in the order of their
  first occurrences.
* `Progress.visit`: a scan that goes from match to match, with the matches seen so far and a counter
  for each number. One visit leads from what the matches so far amount to, to the same with one more
  match (`visit_progressAfter`), so a walk over the patterns ends with what all of them amount to
  (`walk_progressAfter`).
* `run_union`: **a scan is the ordered union of what the patterns match**, without repetitions,
  directories and files that are skipped.
-/

namespace VarLint

/-! ## First occurrences -/

namespace Tally

section
variable {α : Type} [BEq α] [LawfulBEq α]

/-- The distinct elements of two lists in a row: those of the first, and what is new in the
second. -/
theorem distinct_append (l m : List α) :
    distinct (l ++ m) = distinct l ++ (distinct m).filter fun y => !l.contains y := by
  induction l with
  | nil => simp [distinct]
  | cons x l ih =>
    simp only [List.cons_append, distinct, ih, List.filter_append, List.filter_filter]
    refine congrArg (x :: ·) (congrArg _ (List.filter_congr fun y _ => ?_))
    simp only [List.contains_cons, Bool.not_or]

theorem distinct_ordered [DecidableEq α] : ∀ l : List α,
    (distinct l).Pairwise fun a b => l.idxOf a < l.idxOf b
  | [] => .nil
  | x :: l => by
    refine List.pairwise_cons.2 ⟨fun b hb => ?_, ?_⟩
    · have hne : b ≠ x := by simpa using (List.mem_filter.1 hb).2
      rw [List.idxOf_cons_self, List.idxOf_cons_ne _ hne.symm]
      exact Nat.succ_pos _
    · -- behind the first element, every index is one more
      refine ((distinct_ordered l).filter _).imp_of_mem fun {a b} ha hb h => ?_
      have hane : a ≠ x := by simpa using (List.mem_filter.1 ha).2
      have hbne : b ≠ x := by simpa using (List.mem_filter.1 hb).2
      rw [List.idxOf_cons_ne _ hane.symm, List.idxOf_cons_ne _ hbne.symm]
      exact Nat.succ_lt_succ h

end

/-- The list `kept` holds the elements of `l` that pass `keep`, each once, in the order in which
they first occur. -/
structure FirstOccurrences (l : List Bytes) (keep : Bytes → Bool) (kept : List Bytes) : Prop where
  mem_iff : ∀ x, x ∈ kept ↔ x ∈ l ∧ keep x = true
  nodup : kept.Nodup
  ordered : kept.Pairwise fun a b => l.idxOf a < l.idxOf b

/-- **The three conditions determine the list.** -/
theorem firstOccurrences_iff {l : List Bytes} {keep : Bytes → Bool} {kept : List Bytes} :
    FirstOccurrences l keep kept ↔ (distinct l).filter keep = kept := by
  have hspec : FirstOccurrences l keep ((distinct l).filter keep) :=
    { mem_iff := fun x => by rw [List.mem_filter, mem_distinct]
      nodup := (nodup_distinct l).filter _
      ordered := (distinct_ordered l).filter _ }
  constructor
  · intro h
    have hperm : ((distinct l).filter keep).Perm kept :=
      (List.perm_ext_iff_of_nodup hspec.nodup h.nodup).2 fun x => by rw [hspec.mem_iff, h.mem_iff]
    exact hperm.eq_of_pairwise (fun a b _ _ hab hba => absurd hab (Nat.lt_asymm hba)) hspec.ordered
      h.ordered
  · rintro rfl
    exact hspec

end Tally

namespace Scan

open Tally

/-! ## What the ignore file has to say -/

@[simp] theorem linesIn_remember (disk : Disk) (memo : IgnoreMemo) (paths : List Bytes) :
    linesIn disk (remember disk memo paths) = linesIn disk memo := by
  unfold remember
  split <;> rfl

theorem remember_append (disk : Disk) (memo : IgnoreMemo) (ps qs : List Bytes) :
    remember disk (remember disk memo ps) qs = remember disk memo (ps ++ qs) := by
  by_cases hp : ps.any asksIgnore = true
  · by_cases hq : qs.any asksIgnore = true
    · simp [remember, hp, hq, linesIn]
    · simp [remember, hp, hq]
  · simp [remember, hp]

/-! ## A scan from match to match -/

/-- A scan under way: the matches seen so far, the files to be checked, and the numbers of files
found, left out and kept. -/
structure Progress where
  seen : List Bytes := []
  files : List Bytes := []
  discovered : Nat := 0
  skipped : Nat := 0
  scanned : Nat := 0
  memo : IgnoreMemo

/-- Looks at one match. -/
def Progress.visit (disk : Disk) (s : Progress) (path : Bytes) : Progress :=
  if s.seen.contains path then s
  else if !isFile disk path then { s with seen := path :: s.seen }
  else
    let s := { s with
      seen := path :: s.seen, discovered := s.discovered + 1, memo := remember disk s.memo [path] }
    if skips (linesIn disk s.memo) path then { s with skipped := s.skipped + 1 }
    else { s with files := s.files ++ [path], scanned := s.scanned + 1 }

/-- Looks at the matches of one pattern after the other, up to a malformed pattern; also whether
there is none. -/
def Progress.walk (disk : Disk) : Progress → List Bytes → Progress × Bool
  | s, [] => (s, true)
  | s, p :: ps =>
    match Glob.paths disk p with
    | none => (s, false)
    | some found => (found.foldl (Progress.visit disk) s).walk disk ps

/-- What a scan of the given matches amounts to. -/
def progressAfter (disk : Disk) (memo : IgnoreMemo) (paths : List Bytes) : Progress :=
  let found := discovered disk paths
  let kept := found.filter fun path => !skips (linesIn disk memo) path
  { seen := (distinct paths).reverse
    files := kept
    discovered := found.length
    skipped := found.countP (skips (linesIn disk memo))
    scanned := kept.length
    memo := remember disk memo found }

theorem progressAfter_nil (disk : Disk) (memo : IgnoreMemo) :
    progressAfter disk memo [] = { memo } := rfl

theorem discovered_snoc_of_mem (disk : Disk) {paths : List Bytes} {x : Bytes} (h : x ∈ paths) :
    distinct (paths ++ [x]) = distinct paths ∧
      discovered disk (paths ++ [x]) = discovered disk paths := by
  have hd : distinct (paths ++ [x]) = distinct paths := by
    rw [distinct_append]
    simp [distinct, h]
  exact ⟨hd, by rw [discovered, hd, discovered]⟩

theorem discovered_snoc_of_not_mem (disk : Disk) {paths : List Bytes} {x : Bytes} (h : x ∉ paths) :
    distinct (paths ++ [x]) = distinct paths ++ [x] ∧
      discovered disk (paths ++ [x]) = discovered disk paths ++ [x].filter (isFile disk) := by
  have hd : distinct (paths ++ [x]) = distinct paths ++ [x] := by
    rw [distinct_append]
    simp [distinct, h]
  exact ⟨hd, by rw [discovered, hd, List.filter_append, discovered]⟩

/-- **One visit** adds one match to those that the scan has dealt with. -/
theorem visit_progressAfter (disk : Disk) (memo : IgnoreMemo) (paths : List Bytes) (x : Bytes) :
    (progressAfter disk memo paths).visit disk x = progressAfter disk memo (paths ++ [x]) := by
  have hseen : (progressAfter disk memo paths).seen.contains x = paths.contains x := by
    simp [progressAfter, mem_distinct]
  by_cases hx : x ∈ paths
  · obtain ⟨hd, hf⟩ := discovered_snoc_of_mem disk hx
    rw [Progress.visit, hseen, if_pos (by simpa using hx)]
    simp only [progressAfter, hd, hf]
  · obtain ⟨hd, hf⟩ := discovered_snoc_of_not_mem disk hx
    rw [Progress.visit, hseen, if_neg (by simpa using hx)]
    by_cases hfile : isFile disk x = true
    · by_cases hskip : skips (linesIn disk memo) x = true
      · simp [progressAfter, hd, hf, hfile, hskip, remember_append]
      · simp [progressAfter, hd, hf, hfile, hskip, remember_append]
    · simp [progressAfter, hd, hf, hfile]

theorem foldl_progressAfter (disk : Disk) (memo : IgnoreMemo) : ∀ (found paths : List Bytes),
    found.foldl (Progress.visit disk) (progressAfter disk memo paths) =
      progressAfter disk memo (paths ++ found)
  | [], paths => by simp
  | x :: found, paths => by
    rw [List.foldl_cons, visit_progressAfter, foldl_progressAfter disk memo found]
    simp

/-- **A walk** deals with all matches up to a malformed pattern. -/
theorem walk_progressAfter (disk : Disk) (memo : IgnoreMemo) :
    ∀ (patterns paths : List Bytes), (progressAfter disk memo paths).walk disk patterns =
      (progressAfter disk memo (paths ++ (expandAll disk patterns).1), (expandAll disk patterns).2)
  | [], paths => by simp [Progress.walk, expandAll]
  | p :: ps, paths => by
    cases hp : Glob.paths disk p with
    | none => simp [Progress.walk, expandAll, hp]
    | some found =>
      simp only [Progress.walk, expandAll, hp]
      rw [foldl_progressAfter, walk_progressAfter disk memo ps, List.append_assoc]

/-- The outcome of a scan, from where the walk over its patterns ends. -/
theorem run_eq_walk (disk : Disk) (memo : IgnoreMemo) (patterns : List Bytes) :
    run disk memo patterns =
      (if (Progress.walk disk { memo } patterns).2 then
        some ⟨(Progress.walk disk { memo } patterns).1.files,
          (Progress.walk disk { memo } patterns).1.skipped⟩
      else none, (Progress.walk disk { memo } patterns).1.memo) := by
  rw [← progressAfter_nil disk memo, walk_progressAfter]
  simp only [run, List.partition_eq_filter_filter, List.nil_append, progressAfter,
    List.countP_eq_length_filter]
  rfl

/-! ## The matches of well-formed patterns -/

/-- The matches of the patterns in a row. -/
def matchesOf (disk : Disk) (patterns : List Bytes) : List Bytes :=
  patterns.flatMap fun p => (Glob.paths disk p).getD []

/-- Whether a match is to be checked: it is no directory, and it is not skipped. -/
def keeps (disk : Disk) (memo : IgnoreMemo) (path : Bytes) : Bool :=
  isFile disk path && !skips (linesIn disk memo) path

theorem filter_discovered (disk : Disk) (memo : IgnoreMemo) (paths : List Bytes) :
    ((discovered disk paths).filter fun path => !skips (linesIn disk memo) path) =
      (distinct paths).filter (keeps disk memo) := by
  rw [discovered, List.filter_filter]
  exact List.filter_congr fun x _ => Bool.and_comm _ _

theorem expandAll_wellFormed (disk : Disk) : ∀ {patterns : List Bytes},
    (∀ p ∈ patterns, Glob.paths disk p ≠ none) →
      expandAll disk patterns = (matchesOf disk patterns, true)
  | [], _ => rfl
  | p :: ps, h => by
    obtain ⟨found, hfound⟩ := Option.ne_none_iff_exists'.1 (h p (by simp))
    have hrest := expandAll_wellFormed disk fun q hq => h q (List.mem_cons_of_mem _ hq)
    simp only [expandAll, hfound, hrest]
    simp [matchesOf, hfound]

theorem expandAll_malformed (disk : Disk) : ∀ {patterns : List Bytes} {p : Bytes}, p ∈ patterns →
    Glob.paths disk p = none → (expandAll disk patterns).2 = false
  | q :: qs, p, hp, hnone => by
    cases hq : Glob.paths disk q with
    | none => simp [expandAll, hq]
    | some found =>
      have hne : p ≠ q := fun he => by simp [he ▸ hnone] at hq
      simp only [expandAll, hq]
      exact expandAll_malformed disk ((List.mem_cons.1 hp).resolve_left hne) hnone

/-- **The scan of well-formed patterns**, from their matches. -/
theorem run_wellFormed (disk : Disk) (memo : IgnoreMemo) {patterns : List Bytes}
    (h : ∀ p ∈ patterns, Glob.paths disk p ≠ none) :
    (run disk memo patterns).1 =
      some ⟨(distinct (matchesOf disk patterns)).filter (keeps disk memo),
        (discovered disk (matchesOf disk patterns)).countP (skips (linesIn disk memo))⟩ := by
  simp only [run, expandAll_wellFormed disk h, if_true, List.partition_eq_filter_filter,
    List.countP_eq_length_filter, ← filter_discovered]
  rfl

theorem run_eq_none_iff (disk : Disk) (memo : IgnoreMemo) (patterns : List Bytes) :
    (run disk memo patterns).1 = none ↔ ∃ p ∈ patterns, Glob.paths disk p = none := by
  constructor
  · intro h
    by_contra hall
    rw [run_wellFormed disk memo (by simpa using hall)] at h
    cases h
  · rintro ⟨p, hp, hnone⟩
    simp [run, expandAll_malformed disk hp hnone]

theorem matchesOf_append (disk : Disk) (ps qs : List Bytes) :
    matchesOf disk (ps ++ qs) = matchesOf disk ps ++ matchesOf disk qs := by
  simp [matchesOf]

/-- The distinct elements of lists with the same elements. -/
theorem distinct_perm {l m : List Bytes} (h : ∀ x, x ∈ l ↔ x ∈ m) :
    (distinct l).Perm (distinct m) :=
  (List.perm_ext_iff_of_nodup (nodup_distinct l) (nodup_distinct m)).2 fun x => by
    rw [mem_distinct, mem_distinct, h]

/-! ## The union -/

/-- The result of a scan is the ordered union of what the patterns match. -/
structure IsUnion (disk : Disk) (memo : IgnoreMemo) (patterns : List Bytes) (r : Result) :
    Prop where
  /-- The files are the matches to be checked, each once, in the order in which they first occur. -/
  files_iff : ∀ files, r.files = files ↔
    FirstOccurrences (matchesOf disk patterns) (keeps disk memo) files
  /-- Found is every match that is no directory, counted once. -/
  discovered_eq : r.discovered = ((matchesOf disk patterns).filter (isFile disk)).toFinset.card
  /-- The counters of a scan from match to match end with these numbers. -/
  counted : ∃ s, Progress.walk disk { memo } patterns = (s, true) ∧ s.files = r.files ∧
    s.scanned = r.files.length ∧ s.skipped = r.skipped ∧ s.discovered = r.discovered ∧
    s.discovered = s.scanned + s.skipped
  /-- The same patterns in another order, or repeated, give the same files in another order. -/
  reordered : ∀ others, (∀ p, p ∈ others ↔ p ∈ patterns) →
    ∃ r', (run disk memo others).1 = some r' ∧ r'.files.Perm r.files ∧
      r'.files.length = r.files.length ∧ r'.skipped = r.skipped ∧ r'.discovered = r.discovered
  /-- More patterns behind these add files behind these. -/
  extended : ∀ more, (∀ p ∈ more, Glob.paths disk p ≠ none) →
    ∃ r', (run disk memo (patterns ++ more)).1 = some r' ∧ r.files <+: r'.files

theorem length_discovered (disk : Disk) (paths : List Bytes) :
    (discovered disk paths).length = (paths.filter (isFile disk)).toFinset.card := by
  have hnodup : (discovered disk paths).Nodup := (nodup_distinct paths).filter _
  rw [← List.toFinset_card_of_nodup hnodup]
  congr 1
  ext x
  simp [discovered, mem_distinct]

/-- Every file found is kept or skipped. -/
theorem length_discovered_eq (disk : Disk) (memo : IgnoreMemo) (paths : List Bytes) :
    (discovered disk paths).length =
      ((distinct paths).filter (keeps disk memo)).length +
        (discovered disk paths).countP (skips (linesIn disk memo)) := by
  rw [← filter_discovered, ← List.countP_eq_length_filter, Nat.add_comm]
  simpa using List.length_eq_countP_add_countP (skips (linesIn disk memo))

theorem matchesOf_mem_congr {disk : Disk} {ps qs : List Bytes} (h : ∀ p, p ∈ ps ↔ p ∈ qs)
    (x : Bytes) : x ∈ matchesOf disk ps ↔ x ∈ matchesOf disk qs := by
  simp only [matchesOf, List.mem_flatMap, h]

theorem isUnion_of_wellFormed (disk : Disk) (memo : IgnoreMemo) {patterns : List Bytes}
    (h : ∀ p ∈ patterns, Glob.paths disk p ≠ none) {r : Result}
    (hr : (run disk memo patterns).1 = some r) : IsUnion disk memo patterns r := by
  rw [run_wellFormed disk memo h, Option.some.injEq] at hr
  subst hr
  have hlen := length_discovered_eq disk memo (matchesOf disk patterns)
  constructor
  · intro files
    exact firstOccurrences_iff.symm
  · rw [← length_discovered]
    exact hlen.symm
  · have hfiles := filter_discovered disk memo (matchesOf disk patterns)
    refine ⟨progressAfter disk memo (matchesOf disk patterns), ?_, hfiles,
      congrArg List.length hfiles, rfl, hlen, ?_⟩
    · rw [← progressAfter_nil disk memo, walk_progressAfter, expandAll_wellFormed disk h]
      rfl
    · simpa only [progressAfter, hfiles] using hlen
  · intro others hsame
    have hothers : ∀ p ∈ others, Glob.paths disk p ≠ none := fun p hp => h p ((hsame p).1 hp)
    have hperm : (distinct (matchesOf disk others)).Perm (distinct (matchesOf disk patterns)) :=
      distinct_perm (matchesOf_mem_congr hsame)
    have hskipped := (hperm.filter (isFile disk)).countP_eq (skips (linesIn disk memo))
    have hfiles := hperm.filter (keeps disk memo)
    refine ⟨_, run_wellFormed disk memo hothers, hfiles, hfiles.length_eq, hskipped, ?_⟩
    exact congrArg₂ (· + ·) hfiles.length_eq hskipped
  · intro more hmore
    have hall : ∀ p ∈ patterns ++ more, Glob.paths disk p ≠ none := fun p hp =>
      (List.mem_append.1 hp).elim (h p) (hmore p)
    refine ⟨_, run_wellFormed disk memo hall, ?_⟩
    rw [matchesOf_append, distinct_append, List.filter_append]
    exact List.prefix_append _ _

/-- **A scan is the ordered union of what its patterns match.** It is what a walk from match to
match leads to. It fails exactly if one of the patterns is malformed. Otherwise the files are the
matches that are neither directories nor skipped, each once and in the order of their first
occurrences. -/
theorem run_union (disk : Disk) (memo : IgnoreMemo) (patterns : List Bytes) :
    (run disk memo patterns =
      (if (Progress.walk disk { memo } patterns).2 then
        some ⟨(Progress.walk disk { memo } patterns).1.files,
          (Progress.walk disk { memo } patterns).1.skipped⟩
      else none, (Progress.walk disk { memo } patterns).1.memo)) ∧
    ((run disk memo patterns).1 = none ↔ ∃ p ∈ patterns, Glob.paths disk p = none) ∧
    ((∀ p ∈ patterns, Glob.paths disk p ≠ none) →
      ∃ r, (run disk memo patterns).1 = some r ∧ IsUnion disk memo patterns r) := by
  refine ⟨run_eq_walk disk memo patterns, run_eq_none_iff disk memo patterns, fun h => ?_⟩
  have hrun := run_wellFormed disk memo h
  exact ⟨_, hrun, isUnion_of_wellFormed disk memo h hrun⟩

/-- Style sheets to be checked, one that is ignored, one that is minified, and a directory. -/
def mixedTree : Disk :=
  ⟨.directory [(".gitignore", .file "i.css" 1), ("a.css", .file [] 2),
    ("b.css", .directory [("c.css", .file [] 3)]), ("i.css", .file [] 4),
    ("z.min.css", .file [] 5)], "/"⟩

/-- Overlapping patterns that match all of them. -/
theorem run_union_overlapping :
    (∀ p ∈ (["[ab].css", "**/*.css", "a.css"] : List Bytes), Glob.paths mixedTree p ≠ none) ∧
      ∃ r, (run mixedTree none ["[ab].css", "**/*.css", "a.css"]).1 = some r ∧
        r = ⟨["a.css", "b.css/c.css"], 2⟩ ∧
        IsUnion mixedTree none ["[ab].css", "**/*.css", "a.css"] r := by
  have hformed : ∀ p ∈ (["[ab].css", "**/*.css", "a.css"] : List Bytes),
      Glob.paths mixedTree p ≠ none := by decide +kernel
  have hrun : (run mixedTree none ["[ab].css", "**/*.css", "a.css"]).1 =
      some ⟨["a.css", "b.css/c.css"], 2⟩ := by decide +kernel
  obtain ⟨r, hr, hunion⟩ := (run_union mixedTree none _).2.2 hformed
  exact ⟨hformed, r, hr, Option.some.inj (hr.symm.trans hrun), hunion⟩

end Scan

end VarLint
