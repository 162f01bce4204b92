import VarLint.Proofs.Fields
import VarLint.Value.Token

/-!
# Where a value is cut into tokens

A value is read as stretches (`Reading`): runs of blanks, quoted runs, and other characters. A run
of blanks is attached if a quote follows it and something stands before it; all others are cuts.

* `exists_reading`: every value can be read.
* `splitFrom_eq_keptRuns`: splitting follows the reading, stretch by stretch. What it holds back (a
  token, and the blanks behind it) is put before the stretches to come.
* `splitFrom_eq_pieces`: so the tokens are the pieces between the cuts.
* `flatMap_runs_splitFrom`, `splitFrom_of_no_quote`, `startsSolid_of_mem_splitFrom`: the fields of
  the tokens, tokens without quotes, and how a token starts.
* `tokens_cut`: all of this for the tokens of a value.
-/

namespace VarLint.Value

open Bytes

/-! ## Readings -/

/-- A stretch of a value: a run of blanks, a quoted run, or one character that is neither. -/
inductive Stretch where
  | gap (run : List Char)
  | quoted (run : List Char)
  | plain (c : Char)

/-- The stretches of a value. A gap takes all the blanks there are, and a quoted run ends with the
next equal quote, or where the value ends. -/
inductive Reading : List Char → List Stretch → Prop
  | nil : Reading [] []
  | gap {run rest : List Char} {ss : List Stretch} (hne : run ≠ [])
      (hrun : ∀ c ∈ run, isBlank c = true)
      (hend : ∀ c ∈ rest.head?, isBlank c = false) (hrest : Reading rest ss) :
      Reading (run ++ rest) (.gap run :: ss)
  | closed {q : Char} {body rest : List Char} {ss : List Stretch} (hq : isQuote q = true)
      (hbody : q ∉ body) (hrest : Reading rest ss) :
      Reading (q :: (body ++ q :: rest)) (.quoted (q :: (body ++ [q])) :: ss)
  | unclosed {q : Char} {body : List Char} (hq : isQuote q = true) (hbody : q ∉ body) :
      Reading (q :: body) [.quoted (q :: body)]
  | plain {c : Char} {rest : List Char} {ss : List Stretch} (hblank : isBlank c = false)
      (hquote : isQuote c = false) (hrest : Reading rest ss) : Reading (c :: rest) (.plain c :: ss)

/-- Whether a quoted run comes first. -/
def startsQuoted : List Stretch → Bool
  | [] | .gap _ :: _ | .plain _ :: _ => false
  | .quoted _ :: _ => true

/-- The characters of the stretches, each with whether it is deleted. These are the characters of
the gaps that are not attached: no quote follows, or nothing but blanks has been `seen` before. -/
def marked (seen : Bool) : List Stretch → List (Char × Bool)
  | [] => []
  | .gap run :: ss => run.map (·, !(seen && startsQuoted ss)) ++ marked seen ss
  | .quoted run :: ss => run.map (·, false) ++ marked true ss
  | .plain c :: ss => (c, false) :: marked true ss

/-- What is left between deleted characters, without empty pieces. -/
def keptRuns (cs : List (Char × Bool)) : List (List Char) :=
  (runsBetween Prod.snd cs).map (List.map Prod.fst)

/-- The pieces of a value between the gaps that are not attached. -/
def pieces (ss : List Stretch) : List (List Char) := keptRuns (marked false ss)

theorem isBlank_of_isQuote {c : Char} (h : isQuote c = true) : isBlank c = false := by
  rw [isQuote, Bool.or_eq_true, beq_iff_eq, beq_iff_eq] at h
  rcases h with rfl | rfl <;> rfl

theorem exists_reading (cs : List Char) : ∃ ss, Reading cs ss := by
  induction hn : cs.length using Nat.strongRecOn generalizing cs with
  | _ n ih =>
    cases cs with
    | nil => exact ⟨[], .nil⟩
    | cons c rest =>
      rw [List.length_cons] at hn
      cases hblank : isBlank c with
      | true =>
        have hsplit : c :: rest = (c :: rest.takeWhile isBlank) ++ rest.dropWhile isBlank := by
          rw [List.cons_append, List.takeWhile_append_dropWhile]
        have hlen := (List.dropWhile_sublist isBlank (l := rest)).length_le
        obtain ⟨ss, hss⟩ := ih _ (by omega) (rest.dropWhile isBlank) rfl
        rw [hsplit]
        refine ⟨_, .gap (by simp) ?_ ?_ hss⟩
        · intro d hd
          rcases List.mem_cons.1 hd with rfl | hd
          · exact hblank
          · exact List.mem_takeWhile_imp hd
        · intro d hd
          have hstop := List.head?_dropWhile_not isBlank rest
          rw [Option.mem_def.1 hd] at hstop
          simpa using hstop
      | false =>
        cases hquote : isQuote c with
        | false =>
          obtain ⟨ss, hss⟩ := ih _ (by omega) rest rfl
          exact ⟨_, .plain hblank hquote hss⟩
        | true =>
          by_cases hc : c ∈ rest
          · obtain ⟨body, behind, rfl, hbody⟩ := List.eq_append_cons_of_mem hc
            rw [List.length_append, List.length_cons] at hn
            obtain ⟨ss, hss⟩ := ih _ (by omega) behind rfl
            exact ⟨_, .closed hquote hbody hss⟩
          · exact ⟨_, .unclosed hquote hc⟩

/-! ## One stretch -/

theorem splitFrom_blanks {gap : List Char} (hgap : ∀ c ∈ gap, isBlank c = true)
    (current rest : List Char) :
    ∀ pending, splitFrom current pending none (gap ++ rest) =
      splitFrom current (gap.reverse ++ pending) none rest := by
  induction gap with
  | nil => exact fun _ => rfl
  | cons c gap ih =>
    intro pending
    rw [List.cons_append, splitFrom]
    simp only [hgap c (by simp), if_true]
    rw [ih fun d hd => hgap d (List.mem_cons_of_mem _ hd)]
    simp

theorem splitFrom_quote {q : Char} (hq : isQuote q = true) (current pending rest : List Char) :
    splitFrom current pending none (q :: rest) =
      splitFrom (q :: (if current.isEmpty then [] else pending ++ current)) [] (some q) rest := by
  rw [splitFrom]
  simp [isBlank_of_isQuote hq, hq]

theorem splitFrom_close {q : Char} {body : List Char} (hbody : q ∉ body) (rest : List Char) :
    ∀ current, splitFrom current [] (some q) (body ++ q :: rest) =
      splitFrom (q :: (body.reverse ++ current)) [] none rest := by
  induction body with
  | nil => intro current; simp [splitFrom]
  | cons c body ih =>
    intro current
    rw [List.mem_cons, not_or] at hbody
    rw [List.cons_append, splitFrom]
    simp only [beq_iff_eq, Ne.symm hbody.1, if_false]
    rw [ih hbody.2]
    simp

theorem splitFrom_unclosed {q : Char} {body : List Char} (hbody : q ∉ body) :
    ∀ {current}, current ≠ [] → splitFrom current [] (some q) body = [current.reverse ++ body] := by
  induction body with
  | nil => intro current hne; simp [splitFrom, hne]
  | cons c body ih =>
    intro current hne
    rw [List.mem_cons, not_or] at hbody
    rw [splitFrom]
    simp only [beq_iff_eq, Ne.symm hbody.1, if_false]
    rw [ih hbody.2 (by simp)]
    simp

theorem keptRuns_kept (cs : List Char) :
    keptRuns (cs.map (·, false)) = if cs.isEmpty then [] else [cs] := by
  cases cs with
  | nil => rfl
  | cons c cs =>
    rw [keptRuns, runsBetween_self (by simp) (by simp)]
    simp [Function.comp_def]

theorem keptRuns_skip (gap : List Char) (l : List (Char × Bool)) :
    keptRuns (gap.map (·, true) ++ l) = keptRuns l := by
  rw [keptRuns, runsBetween_skip_all (by simp)]
  rfl

theorem keptRuns_gap {gap : List Char} (hne : gap ≠ []) (cs : List Char) (l : List (Char × Bool)) :
    keptRuns (cs.map (·, false) ++ (gap.map (·, true) ++ l)) =
      (if cs.isEmpty then [] else [cs]) ++ keptRuns l := by
  rw [keptRuns, runsBetween_gap (by simpa using hne) (by simp), List.map_append, ← keptRuns_kept]
  rfl

/-! ## All stretches -/

section

variable {cs : List Char} {ss : List Stretch}

/-- **Splitting follows the reading.** Blanks that are held back belong to the gap before the
stretches to come, so these do not start with a gap. -/
theorem splitFrom_eq_keptRuns (h : Reading cs ss) :
    ∀ current pending : List Char, (pending = [] ∨ ∀ c ∈ cs.head?, isBlank c = false) →
      splitFrom current pending none cs = keptRuns (current.reverse.map (·, false) ++
        (pending.reverse.map (·, !(!current.isEmpty && startsQuoted ss)) ++
          marked (!current.isEmpty) ss)) := by
  induction h with
  | nil =>
    intro current pending _
    rw [splitFrom, marked, startsQuoted, Bool.and_false, Bool.not_false]
    cases pending with
    | nil => simpa using (keptRuns_kept current.reverse).symm
    | cons c pending =>
      rw [keptRuns_gap (by simp)]
      simp [keptRuns]
  | @gap run rest ss hne hrun hend hrest ih =>
    intro current pending hpending
    obtain rfl : pending = [] := by
      refine hpending.resolve_right fun hhead => ?_
      obtain ⟨c, run, rfl⟩ := List.exists_cons_of_ne_nil hne
      have hsolid := hhead c rfl
      rw [hrun c (by simp)] at hsolid
      cases hsolid
    rw [splitFrom_blanks hrun, ih _ _ (.inr hend), marked]
    simp
  | @closed q body rest ss hq hbody hrest ih =>
    intro current pending _
    rw [splitFrom_quote hq, splitFrom_close hbody, ih _ [] (.inl rfl), startsQuoted, marked]
    cases current with
    | nil => simp [keptRuns_skip, -List.map_reverse]
    | cons c current => simp
  | @unclosed q body hq hbody =>
    intro current pending _
    rw [splitFrom_quote hq, splitFrom_unclosed hbody (by simp), startsQuoted, marked, marked]
    cases current with
    | nil =>
      have hkept := keptRuns_kept (q :: body)
      simpa [keptRuns_skip, -List.map_reverse] using hkept.symm
    | cons c current =>
      have hkept := keptRuns_kept ((c :: current).reverse ++ (pending.reverse ++ q :: body))
      simpa using hkept.symm
  | @plain c rest ss hblank hquote hrest ih =>
    intro current pending _
    rw [splitFrom, startsQuoted, Bool.and_false, Bool.not_false, marked]
    simp only [hblank, hquote, Bool.false_eq_true, if_false]
    cases pending with
    | nil => simp [ih _ [] (.inl rfl)]
    | cons d pending =>
      rw [keptRuns_gap (by simp), ih [c] [] (.inl rfl)]
      cases current <;> simp

theorem splitFrom_eq_pieces (h : Reading cs ss) : splitFrom [] [] none cs = pieces ss := by
  simpa [pieces] using splitFrom_eq_keptRuns h [] [] (.inl rfl)

/-! ## What the cuts leave -/

/-- The marks are laid over the value. -/
theorem Reading.chars_marked (h : Reading cs ss) : ∀ seen, (marked seen ss).map Prod.fst = cs := by
  induction h with
  | nil => exact fun _ => rfl
  | gap hne hrun hend hrest ih => intro seen; simp [marked, ih, Function.comp_def]
  | closed hq hbody hrest ih => intro seen; simp [marked, ih, Function.comp_def]
  | unclosed hq hbody => intro seen; simp [marked, Function.comp_def]
  | plain hblank hquote hrest ih => intro seen; simp [marked, ih]

/-- Only blanks are deleted. -/
theorem Reading.isBlank_of_marked (h : Reading cs ss) :
    ∀ seen, ∀ x ∈ marked seen ss, x.2 = true → isBlank x.1 = true := by
  induction h with
  | nil => simp [marked]
  | gap hne hrun hend hrest ih =>
    intro seen x hx hdrop
    rw [marked, List.mem_append, List.mem_map] at hx
    rcases hx with ⟨c, hc, rfl⟩ | hx
    · exact hrun c hc
    · exact ih seen x hx hdrop
  | closed hq hbody hrest ih =>
    intro seen x hx hdrop
    rw [marked, List.mem_append, List.mem_map] at hx
    rcases hx with ⟨c, -, rfl⟩ | hx
    · cases hdrop
    · exact ih true x hx hdrop
  | unclosed hq hbody =>
    intro seen x hx hdrop
    rw [marked, List.mem_append, List.mem_map] at hx
    rcases hx with ⟨c, -, rfl⟩ | hx
    · cases hdrop
    · cases hx
  | plain hblank hquote hrest ih =>
    intro seen x hx hdrop
    rcases List.mem_cons.1 hx with rfl | hx
    · cases hdrop
    · exact ih true x hx hdrop

/-- Without quotes no gap is attached, and all blanks are deleted. -/
theorem Reading.marked_of_no_quote (h : Reading cs ss) (hcs : ∀ c ∈ cs, isQuote c = false) :
    startsQuoted ss = false ∧ ∀ seen, ∀ x ∈ marked seen ss, x.2 = isBlank x.1 := by
  have hno : ∀ {q : Char} {rest : List Char}, isQuote q = true →
      ¬ ∀ c ∈ q :: rest, isQuote c = false := by
    intro q rest hq hall
    have hq' := hall q (by simp)
    rw [hq] at hq'
    cases hq'
  induction h with
  | nil => simp [startsQuoted, marked]
  | @gap run rest ss hne hrun hend hrest ih =>
    obtain ⟨hstart, hmarks⟩ := ih fun c hc => hcs c (List.mem_append_right _ hc)
    refine ⟨rfl, fun seen x hx => ?_⟩
    rw [marked, hstart, List.mem_append, List.mem_map] at hx
    rcases hx with ⟨c, hc, rfl⟩ | hx
    · simp [hrun c hc]
    · exact hmarks seen x hx
  | closed hq hbody hrest ih => exact absurd hcs (hno hq)
  | unclosed hq hbody => exact absurd hcs (hno hq)
  | plain hblank hquote hrest ih =>
    obtain ⟨-, hmarks⟩ := ih fun c hc => hcs c (List.mem_cons_of_mem _ hc)
    refine ⟨rfl, fun seen x hx => ?_⟩
    rcases List.mem_cons.1 hx with rfl | hx
    · exact hblank.symm
    · exact hmarks true x hx

end

/-- **Cutting the tokens at all blanks** gives what cutting the value at all blanks gives. -/
theorem flatMap_runs_splitFrom (cs : List Char) :
    (splitFrom [] [] none cs).flatMap (runsBetween isBlank) = runsBetween isBlank cs := by
  obtain ⟨ss, h⟩ := exists_reading cs
  have hruns : ∀ t : List (Char × Bool), runsBetween isBlank (t.map Prod.fst) =
      (runsBetween (isBlank ∘ Prod.fst) t).map (List.map Prod.fst) :=
      fun t => runsBetween_map Prod.fst t
  rw [splitFrom_eq_pieces h, pieces, keptRuns, List.flatMap_map, ← h.chars_marked false, hruns,
    ← flatMap_runsBetween (p := isBlank ∘ Prod.fst) _ (h.isBlank_of_marked false), List.map_flatMap]
  simp only [hruns]

theorem splitFrom_of_no_quote {cs : List Char} (hcs : ∀ c ∈ cs, isQuote c = false) :
    splitFrom [] [] none cs = runsBetween isBlank cs := by
  obtain ⟨ss, h⟩ := exists_reading cs
  rw [splitFrom_eq_pieces h, pieces, keptRuns,
    runsBetween_congr ((h.marked_of_no_quote hcs).2 false), ← h.chars_marked false]
  exact (runsBetween_map (p := isBlank) Prod.fst _).symm

/-- The text is not empty and starts with no blank. -/
def StartsSolid (t : List Char) : Prop := ∃ c ∈ t.head?, isBlank c = false

theorem StartsSolid.append {t : List Char} (h : StartsSolid t) (u : List Char) :
    StartsSolid (t ++ u) := by
  obtain ⟨c, hc, hblank⟩ := h
  refine ⟨c, ?_, hblank⟩
  rw [List.head?_append, Option.mem_def.1 hc]
  rfl

/-- **Every token starts with a character that is no blank**, if the one that is held back does. -/
theorem startsSolid_of_mem_splitFrom {cs : List Char} :
    ∀ {current pending : List Char} {quote : Option Char},
    (current = [] ∨ StartsSolid current.reverse) → (quote.isSome = true → current ≠ []) →
    ∀ t ∈ splitFrom current pending quote cs, StartsSolid t := by
  induction cs with
  | nil =>
    intro current pending quote hcur hquote t ht
    rw [splitFrom] at ht
    split at ht
    · cases ht
    · next hne =>
      obtain rfl := List.mem_singleton.1 ht
      exact hcur.resolve_left (by simpa using hne)
  | cons c cs ih =>
    intro current pending quote hcur hquote t ht
    have hmore : current ≠ [] → ∀ u : List Char, StartsSolid (u ++ current).reverse := by
      intro hne u
      rw [List.reverse_append]
      exact (hcur.resolve_left hne).append _
    cases quote with
    | some q =>
      rw [splitFrom] at ht
      exact ih (.inr (hmore (hquote rfl) [c])) (by simp) t ht
    | none =>
      cases hblank : isBlank c with
      | true =>
        simp only [splitFrom, hblank, if_true] at ht
        exact ih hcur (by simp) t ht
      | false =>
        have hfresh : StartsSolid [c].reverse := ⟨c, rfl, hblank⟩
        simp only [splitFrom, hblank, Bool.false_eq_true, if_false] at ht
        cases current with
        | nil =>
          simp only [List.isEmpty_nil, if_true, ite_self] at ht
          split at ht
          · exact ih (.inr hfresh) (by simp) t ht
          · exact ih (.inr hfresh) (by simp) t ht
        | cons d current =>
          simp only [List.isEmpty_cons, Bool.false_eq_true, if_false] at ht
          split at ht
          · exact ih (.inr (hmore (by simp) (c :: pending))) (by simp) t ht
          · split at ht
            · exact ih (.inr (hmore (by simp) [c])) (by simp) t ht
            · rcases List.mem_cons.1 ht with rfl | ht
              · exact hmore (by simp) []
              · exact ih (.inr hfresh) (by simp) t ht

/-! ## Tokens -/

/-- **Without quotes the tokens are the fields**, written anew from their characters. -/
theorem tokens_eq_fields {s : Bytes} (hs : ∀ c ∈ s.chars, isQuote c = false) :
    tokens s = s.fields.map fun f => ofChars f.chars := by
  rw [tokens, splitFrom_of_no_quote hs, runsBetween_chars, List.map_map]
  rfl

theorem mem_tokens {s t : Bytes} (ht : t ∈ tokens s) :
    ∃ u ∈ splitFrom [] [] none s.chars, t = ofChars u ∧ StartsSolid u := by
  obtain ⟨u, hu, rfl⟩ := List.mem_map.1 ht
  exact ⟨u, hu, rfl, startsSolid_of_mem_splitFrom (.inl rfl) (by simp) u hu⟩

/-- **A value is cut at the gaps that are not attached.** It can be read, and its tokens are the
pieces between these gaps. So a token is not empty and starts with no blank, the fields of the
tokens are the fields of the value, and without quotes the tokens are the fields. -/
theorem tokens_cut {value : Bytes} (hvalue : value.isWellFormed = true) :
    (∃ ss, Reading value.chars ss) ∧
    (∀ ss, Reading value.chars ss → tokens value = (pieces ss).map ofChars) ∧
    (∀ t ∈ tokens value, t ≠ [] ∧ ∀ c ∈ t.chars.head?, isBlank c = false) ∧
    (tokens value).flatMap fields = value.fields ∧
    ((∀ c ∈ value.chars, isQuote c = false) → tokens value = value.fields) := by
  have hfields : value.fields = (runsBetween isBlank value.chars).map ofChars := by
    rw [← fields_ofChars, ofChars_chars hvalue]
  refine ⟨exists_reading _, fun ss hss => ?_, fun t ht => ?_, ?_, fun hquotes => ?_⟩
  · rw [tokens, splitFrom_eq_pieces hss]
  · obtain ⟨u, -, rfl, c, hc, hblank⟩ := mem_tokens ht
    rw [chars_ofChars]
    constructor
    · intro hnil
      have hu := chars_ofChars u
      rw [hnil] at hu
      rw [← hu] at hc
      cases hc
    · rintro d hd
      obtain rfl : c = d := Option.mem_unique hc hd
      exact hblank
  · rw [tokens, List.flatMap_map, hfields, ← flatMap_runs_splitFrom, List.map_flatMap]
    simp only [fields_ofChars]
  · rw [tokens, splitFrom_of_no_quote hquotes, hfields]

theorem tokens_cut_attachedAndLoose :
    Bytes.isWellFormed "  'k' f($m, \"a  b\")  $c 'x y" = true ∧
      tokens "  'k' f($m, \"a  b\")  $c 'x y" =
        (["'k'", "f($m, \"a  b\")", "$c 'x y"] : List Bytes) ∧
      (∃ ss, Reading (Bytes.chars "  'k' f($m, \"a  b\")  $c 'x y") ss ∧
        (pieces ss).map ofChars = (["'k'", "f($m, \"a  b\")", "$c 'x y"] : List Bytes)) ∧
      (tokens "  'k' f($m, \"a  b\")  $c 'x y").flatMap fields =
        Bytes.fields "  'k' f($m, \"a  b\")  $c 'x y" := by
  have hvalue : Bytes.isWellFormed "  'k' f($m, \"a  b\")  $c 'x y" = true := by decide
  have htokens : tokens "  'k' f($m, \"a  b\")  $c 'x y" =
      (["'k'", "f($m, \"a  b\")", "$c 'x y"] : List Bytes) := by decide
  obtain ⟨⟨ss, hss⟩, hcut, -, hfields, -⟩ := tokens_cut hvalue
  exact ⟨hvalue, htokens, ⟨ss, hss, by rw [← hcut ss hss, htokens]⟩, hfields⟩

end VarLint.Value
