import VarLint.Proofs.Concatenation
import VarLint.Proofs.Decoding
import VarLint.Proofs.ReportAgreement

/-!
# Rows of the Markdown tables

A row of a table is one text, and it is one line of the report exactly if no cell holds a line feed:
escaping takes care of bars only.

* `bars`: the number of bars in a text that no backslash escapes. A cell has none (`barless_cell`),
  so a row of `n` cells has `n + 1` (`bars_rowText`), and cutting it into lines keeps them all
  (`sum_bars_splitOn`).
* `linesOf`: the lines of a text of whole lines. Texts in a row have their lines in a row
  (`linesOf_append`).
* `rows_flatMap`: a table has a line for each row and one more for each line feed in a cell
  (`Rows`).
* `markdown_rows`: the tables of the report on a style sheet, line by line.
* `markdown_row_broken`: a value of two lines takes two lines of its table.
-/

namespace VarLint

/-- The digits of a number are the only bytes that print it. -/
theorem Bytes.digit_of_mem_ofNat {n : Nat} {b : UInt8} (h : b ∈ Bytes.ofNat n) :
    0x30 ≤ b ∧ b ≤ 0x39 := by
  rw [Bytes.ofNat, Bytes.ofString, Nat.toString_eq_repr, Nat.toList_repr, List.mem_flatMap] at h
  obtain ⟨c, hc, hb⟩ := h
  have hdigit := Nat.isDigit_of_mem_toDigits (by decide) (by decide) hc
  simp only [Char.isDigit, Bool.and_eq_true, decide_eq_true_eq, ge_iff_le,
    UInt32.le_iff_toNat_le] at hdigit
  have hzero : '0'.val.toNat = 0x30 ∧ '9'.val.toNat = 0x39 := ⟨rfl, rfl⟩
  rw [Rune.encode_ascii (by omega), List.mem_singleton] at hb
  subst hb
  simp only [UInt8.le_iff_toNat_le, UInt8.toNat_ofNat', UInt8.reduceToNat]
  omega

theorem Bytes.mem_ofInt {n : Int} {b : UInt8} (h : b ∈ Bytes.ofInt n) :
    b = 0x2D ∨ 0x30 ≤ b ∧ b ≤ 0x39 := by
  unfold Bytes.ofInt at h
  split at h
  · rcases List.mem_append.1 h with h | h
    · exact .inl (List.mem_singleton.1 h)
    · exact .inr (Bytes.digit_of_mem_ofNat h)
  · exact .inr (Bytes.digit_of_mem_ofNat h)

namespace Report

open Findings

/-! ## Bars -/

/-- The number of bars without a backslash before them, in a text that follows the byte
`previous`. -/
def barsAfter : UInt8 → Bytes → Nat
  | _, [] => 0
  | previous, b :: s => (if b == 0x7C && previous != 0x5C then 1 else 0) + barsAfter b s

/-- The number of bars in a line without a backslash before them. -/
def bars (s : Bytes) : Nat := barsAfter 0x0A s

theorem barsAfter_append (s t : Bytes) : ∀ previous : UInt8,
    barsAfter previous (s ++ t) = barsAfter previous s + barsAfter (s.getLastD previous) t := by
  induction s with
  | nil => intro previous; simp [barsAfter]
  | cons b s ih =>
    intro previous
    rw [List.cons_append, barsAfter, barsAfter, ih, List.getLastD_cons, Nat.add_assoc]

/-- Cutting a text into lines keeps its bars. -/
theorem sum_bars_splitOn (s : Bytes) : ((s.splitOn 0x0A).map bars).sum = bars s := by
  have hgeneral : ∀ (s : Bytes) (previous : UInt8) (first : Bytes) (rest : List Bytes),
      s.splitOn 0x0A = first :: rest →
        barsAfter previous first + (rest.map bars).sum = barsAfter previous s := by
    intro s
    induction s with
    | nil =>
      intro previous first rest h
      cases h
      rfl
    | cons b s ih =>
      intro previous first rest h
      obtain ⟨p, ps, hp⟩ := Bytes.exists_splitOn_cons 0x0A s
      by_cases hb : b = 0x0A
      · subst hb
        rw [Bytes.splitOn_cons_self, hp] at h
        cases h
        have := ih 0x0A p ps hp
        simpa [barsAfter, bars] using this
      · rw [Bytes.splitOn_cons_of_ne hb hp] at h
        obtain ⟨rfl, rfl⟩ := List.cons.inj h
        rw [barsAfter, barsAfter, Nat.add_assoc, ih b p ps hp]
  obtain ⟨first, rest, h⟩ := Bytes.exists_splitOn_cons 0x0A s
  rw [h, List.map_cons, List.sum_cons]
  exact hgeneral s 0x0A first rest h

/-- The text has no bars but escaped ones, whatever stands before it. -/
def Barless (s : Bytes) : Prop := ∀ previous, barsAfter previous s = 0

theorem Barless.append {s t : Bytes} (hs : Barless s) (ht : Barless t) : Barless (s ++ t) := by
  intro previous
  rw [barsAfter_append, hs, ht]

theorem barless_of_no_bar {s : Bytes} (h : 0x7C ∉ s) : Barless s := by
  induction s with
  | nil => exact fun _ => rfl
  | cons b s ih =>
    intro previous
    rw [List.mem_cons, not_or] at h
    have hb : ¬b = 0x7C := fun he => h.1 he.symm
    simp [barsAfter, hb, ih h.2 b]

/-- **A cell has no bars of its own.** -/
theorem barless_cell (s : Bytes) : Barless (cell s) := by
  induction s with
  | nil => exact fun _ => rfl
  | cons b s ih =>
    rw [cell, List.flatMap_cons]
    refine Barless.append ?_ ih
    intro previous
    by_cases hb : b = 0x7C
    · simp [hb, barsAfter]
    · simp [hb, barsAfter]

theorem barless_codeCell (s : Bytes) : Barless (codeCell s) :=
  ((barless_of_no_bar (by decide)).append (barless_cell s)).append (barless_of_no_bar (by decide))

theorem barless_ofInt (n : Int) : Barless (Bytes.ofInt n) :=
  barless_of_no_bar fun h => by
    rcases Bytes.mem_ofInt h with h | ⟨-, h⟩ <;> exact absurd h (by decide)

/-! ## Rows -/

/-- The text of a row, without the end of its line. -/
def rowText (cells : List Bytes) : Bytes := "| " ++ Bytes.join " | " cells ++ " |"

theorem barsAfter_join {cells : List Bytes} (h : ∀ c ∈ cells, Barless c) : ∀ previous : UInt8,
    barsAfter previous (Bytes.join " | " cells) = cells.length - 1 := by
  induction cells with
  | nil => exact fun _ => rfl
  | cons c cells ih =>
    intro previous
    have hc := h c (by simp)
    cases cells with
    | nil => exact hc previous
    | cons d cells =>
      have hseparator : ∀ p, barsAfter p (Bytes.ofString " | ") = 1 := fun p => by
        show barsAfter p [0x20, 0x7C, 0x20] = 1
        simp [barsAfter]
      rw [Bytes.join, barsAfter_append, barsAfter_append, hc, hseparator,
        ih (fun x hx => h x (List.mem_cons_of_mem _ hx))]
      · simp only [List.length_cons]
        omega
      · simp

/-- **A row has one bar more than cells.** -/
theorem bars_rowText {cells : List Bytes} (hne : cells ≠ []) (h : ∀ c ∈ cells, Barless c) :
    bars (rowText cells) = cells.length + 1 := by
  have hopen : barsAfter 0x0A (Bytes.ofString "| ") = 1 := by decide
  have hclose : ∀ p, barsAfter p (Bytes.ofString " |") = 1 := fun p => by
    show barsAfter p [0x20, 0x7C] = 1
    simp [barsAfter]
  have hlength := List.length_pos_iff.2 hne
  rw [bars, rowText, barsAfter_append, barsAfter_append, hopen, hclose, barsAfter_join h]
  omega

@[simp] theorem count_cell (s : Bytes) : (cell s).count 0x0A = s.count 0x0A := by
  induction s with
  | nil => rfl
  | cons b s ih =>
    rw [cell] at ih ⊢
    rw [List.flatMap_cons, List.count_append, ih, List.count_cons]
    by_cases hb : b = 0x7C
    · simp [hb]
    · simp [hb, List.count_singleton, Nat.add_comm]

@[simp] theorem count_codeCell (s : Bytes) : (codeCell s).count 0x0A = s.count 0x0A := by
  have hmark : (Bytes.ofString "\x60").count 0x0A = 0 := by decide
  rw [codeCell, List.count_append, List.count_append, hmark, count_cell]
  omega

@[simp] theorem count_ofInt (n : Int) : (Bytes.ofInt n).count 0x0A = 0 :=
  List.count_eq_zero.2 fun h => by
    rcases Bytes.mem_ofInt h with h | ⟨h, -⟩ <;> exact absurd h (by decide)

theorem count_join {separator : Bytes} (hs : separator.count 0x0A = 0) (texts : List Bytes) :
    (Bytes.join separator texts).count 0x0A = (texts.map (List.count 0x0A)).sum := by
  induction texts with
  | nil => rfl
  | cons t texts ih =>
    cases texts with
    | nil => simp [Bytes.join]
    | cons u texts =>
      rw [Bytes.join, List.count_append, List.count_append, hs, ih]
      · rfl
      · simp

/-- The line feeds of a row are those of its cells. -/
theorem count_rowText (cells : List Bytes) :
    (rowText cells).count 0x0A = (cells.map (List.count 0x0A)).sum := by
  have hends : (Bytes.ofString "| ").count 0x0A = 0 ∧ (Bytes.ofString " |").count 0x0A = 0 := by
    decide
  rw [rowText, List.count_append, List.count_append, hends.1, hends.2, count_join (by decide)]
  omega

/-! ## Lines -/

/-- The lines of a text of whole lines. -/
def linesOf (s : Bytes) : List Bytes := (s.splitOn 0x0A).dropLast

/-- The text consists of whole lines. -/
def IsWhole (s : Bytes) : Prop := ∃ texts : List Bytes, s = texts.flatMap line

theorem IsWhole.append {s t : Bytes} (hs : IsWhole s) (ht : IsWhole t) : IsWhole (s ++ t) := by
  obtain ⟨us, rfl⟩ := hs
  obtain ⟨vs, rfl⟩ := ht
  exact ⟨us ++ vs, by rw [List.flatMap_append]⟩

theorem isWhole_nil : IsWhole [] := ⟨[], rfl⟩

theorem isWhole_line (s : Bytes) : IsWhole (line s) := ⟨[s], by simp⟩

theorem linesOf_flatMap_line_append (texts : List Bytes) (t : Bytes) :
    linesOf (texts.flatMap line ++ t) = texts.flatMap (Bytes.splitOn 0x0A) ++ linesOf t := by
  induction texts with
  | nil => rfl
  | cons u texts ih =>
    have hline : ∀ rest : Bytes, linesOf (line u ++ rest) = u.splitOn 0x0A ++ linesOf rest := by
      intro rest
      have hcut : line u ++ rest = u ++ 0x0A :: rest := by
        rw [line, List.append_assoc]
        rfl
      obtain ⟨first, more, hrest⟩ := Bytes.exists_splitOn_cons 0x0A rest
      rw [linesOf, linesOf, hcut, Stylesheet.splitOn_lineFeed, hrest,
        List.dropLast_append_of_ne_nil (by simp)]
    rw [List.flatMap_cons, List.flatMap_cons, List.append_assoc, List.append_assoc, hline, ih]

theorem linesOf_flatMap_line (texts : List Bytes) :
    linesOf (texts.flatMap line) = texts.flatMap (Bytes.splitOn 0x0A) := by
  have h := linesOf_flatMap_line_append texts []
  rwa [List.append_nil, show linesOf [] = [] from rfl, List.append_nil] at h

/-- **Whole lines in a row.** -/
theorem linesOf_append {s : Bytes} (hs : IsWhole s) (t : Bytes) :
    linesOf (s ++ t) = linesOf s ++ linesOf t := by
  obtain ⟨texts, rfl⟩ := hs
  rw [linesOf_flatMap_line_append, linesOf_flatMap_line]

/-- `lines` are those of a table of `count` rows with three cells each, in which there are `feeds`
line feeds: each line feed makes one more line, and without any every line is a row with its four
bars. -/
structure Rows (lines : List Bytes) (count feeds : Nat) : Prop where
  length : lines.length = count + feeds
  sum_bars : (lines.map bars).sum = 4 * count
  bars : feeds = 0 → ∀ l ∈ lines, bars l = 4

/-- **A table has a line for each row and one more for each line feed.** -/
theorem rows_flatMap {α : Type} (text : α → Bytes) (feeds : α → Nat)
    (hbars : ∀ x, bars (text x) = 4) (hfeeds : ∀ x, (text x).count 0x0A = feeds x) (xs : List α) :
    Rows (xs.flatMap fun x => (text x).splitOn 0x0A) xs.length (xs.map feeds).sum where
  length := by
    induction xs with
    | nil => rfl
    | cons x xs ih =>
      rw [List.flatMap_cons, List.length_append, ih, Stylesheet.length_splitOn, hfeeds,
        List.map_cons, List.sum_cons, List.length_cons]
      omega
  sum_bars := by
    induction xs with
    | nil => rfl
    | cons x xs ih =>
      rw [List.flatMap_cons, List.map_append, List.sum_append, ih, sum_bars_splitOn, hbars,
        List.length_cons]
      omega
  bars hnone l hl := by
    obtain ⟨x, hx, hl⟩ := List.mem_flatMap.1 hl
    have hzero : feeds x = 0 := List.sum_eq_zero_iff.1 hnone _ (List.mem_map_of_mem hx)
    rw [Bytes.splitOn_of_not_mem (List.count_eq_zero.1 ((hfeeds x).trans hzero)),
      List.mem_singleton] at hl
    rw [hl, hbars]

/-! ## Issues and literals -/

/-- The text of an issue's row. -/
def issueText (setting : Setting) (i : Issue) : Bytes :=
  rowText
    ["\x60" ++ cell (displayPath setting i.file) ++ ":" ++ Bytes.ofInt i.line ++ ":"
        ++ Bytes.ofInt i.column ++ "\x60",
      codeCell i.property, codeCell i.value]

/-- The line feeds in what a row shows of an issue. -/
def issueFeeds (setting : Setting) (i : Issue) : Nat :=
  (displayPath setting i.file).count 0x0A + i.property.count 0x0A + i.value.count 0x0A

theorem bars_issueText (setting : Setting) (i : Issue) : bars (issueText setting i) = 4 := by
  refine bars_rowText (by simp) ?_
  simp only [List.mem_cons, List.not_mem_nil, or_false, forall_eq_or_imp, forall_eq]
  refine ⟨?_, barless_codeCell _, barless_codeCell _⟩
  have hmark : ∀ s : String, 0x7C ∉ Bytes.ofString s → Barless (Bytes.ofString s) := fun _ =>
    barless_of_no_bar
  exact ((((((hmark _ (by decide)).append (barless_cell _)).append (hmark _ (by decide))).append
    (barless_ofInt _)).append (hmark _ (by decide))).append (barless_ofInt _)).append
    (hmark _ (by decide))

theorem count_issueText (setting : Setting) (i : Issue) :
    (issueText setting i).count 0x0A = issueFeeds setting i := by
  have hmarks : (Bytes.ofString "\x60").count 0x0A = 0 ∧ (Bytes.ofString ":").count 0x0A = 0 := by
    decide
  rw [issueText, count_rowText]
  simp [issueFeeds, List.count_append, hmarks.1, hmarks.2, Nat.add_assoc]

/-- The text of a literal's row. -/
def literalText (l : LiteralCount) : Bytes :=
  rowText [codeCell l.value, Bytes.ofInt l.occurrences, cell (Bytes.join ", " l.properties)]

/-- The line feeds in what a row shows of a literal. -/
def literalFeeds (l : LiteralCount) : Nat :=
  l.value.count 0x0A + (l.properties.map (List.count 0x0A)).sum

theorem bars_literalText (l : LiteralCount) : bars (literalText l) = 4 := by
  refine bars_rowText (by simp) ?_
  simp only [List.mem_cons, List.not_mem_nil, or_false, forall_eq_or_imp, forall_eq]
  exact ⟨barless_codeCell _, barless_ofInt _, barless_cell _⟩

theorem count_literalText (l : LiteralCount) : (literalText l).count 0x0A = literalFeeds l := by
  have hseparator : (Bytes.ofString ", ").count 0x0A = 0 := by decide
  rw [literalText, count_rowText]
  simp [literalFeeds, count_join hseparator]

/-! ## Sections -/

/-- The lines between the head and the foot of a section of issues. -/
def issueLines (setting : Setting) (issues : List Issue) : List Bytes :=
  (issues.take markdownLimit).flatMap fun i => (issueText setting i).splitOn 0x0A

/-- The lines above the rows of a section of issues. -/
def issueHead (heading : Bytes) : List Bytes :=
  [heading, [], "| Location | Property | Value |", "|----------|----------|-------|"]

/-- The lines below the rows of a section of `n` issues. -/
def issueFoot (n : Nat) : List Bytes :=
  (if markdownLimit < n then
      [[], .ofString "... and " ++ Bytes.ofNat (n - markdownLimit) ++ .ofString " more"]
    else []) ++ [[]]

/-- The lines of a section of issues; there is none without issues. -/
def sectionLines (setting : Setting) (heading : Bytes) (issues : List Issue) : List Bytes :=
  if issues.isEmpty then []
  else issueHead heading ++ issueLines setting issues ++ issueFoot issues.length

/-- The lines between the head and the foot of the table of literals. -/
def literalRows (literals : List LiteralCount) : List Bytes :=
  literals.flatMap fun l => (literalText l).splitOn 0x0A

/-- The lines above the rows of the table of literals. -/
def literalHead : List Bytes :=
  ["## 🎯 Top Literals", [], "| Value | Occurrences | Properties |",
    "|-------|-------------|------------|"]

/-- The lines of the table of literals; there is none without literals. -/
def literalLines (literals : List LiteralCount) : List Bytes :=
  if literals.isEmpty then [] else literalHead ++ literalRows literals ++ [[]]

theorem issueSection_eq (setting : Setting) (heading : Bytes) (issues : List Issue) :
    issueSection setting heading issues = (issueHead heading ++
      (issues.take markdownLimit).map (issueText setting) ++ issueFoot issues.length).flatMap
        line := by
  have hrow : issueRow setting = fun i => line (issueText setting i) := rfl
  rw [issueSection, issueHead, issueFoot, title, hrow, List.flatMap_append, List.flatMap_append,
    List.flatMap_map]
  split <;> simp

theorem splitOn_heads : literalHead.flatMap (Bytes.splitOn 0x0A) = literalHead ∧
    ∀ heading : Bytes, 0x0A ∉ heading →
      (issueHead heading).flatMap (Bytes.splitOn 0x0A) = issueHead heading := by
  refine ⟨by decide +kernel, fun heading h => ?_⟩
  rw [issueHead, List.flatMap_cons, Bytes.splitOn_of_not_mem h]
  exact congrArg ([heading] ++ ·) (by decide +kernel)

theorem splitOn_issueFoot (n : Nat) : (issueFoot n).flatMap (Bytes.splitOn 0x0A) = issueFoot n := by
  have hmore : 0x0A ∉ Bytes.ofString "... and " ++ Bytes.ofNat (n - markdownLimit) ++
      Bytes.ofString " more" := by
    simp only [List.mem_append, not_or]
    refine ⟨⟨by decide, fun h => ?_⟩, by decide⟩
    exact absurd (Bytes.digit_of_mem_ofNat h).1 (by decide)
  unfold issueFoot
  split
  · rw [List.flatMap_append, List.flatMap_cons, List.flatMap_cons, Bytes.splitOn_of_not_mem hmore]
    rfl
  · rfl

/-- **The lines of a section.** -/
theorem linesOf_issueSection {setting : Setting} {heading : Bytes} (h : 0x0A ∉ heading)
    (issues : List Issue) : linesOf (issueSection setting heading issues) =
      issueHead heading ++ issueLines setting issues ++ issueFoot issues.length := by
  rw [issueSection_eq, linesOf_flatMap_line, List.flatMap_append, List.flatMap_append,
    splitOn_heads.2 heading h, splitOn_issueFoot, List.flatMap_map]
  rfl

theorem isWhole_issueSection (setting : Setting) (heading : Bytes) (issues : List Issue) :
    IsWhole (issueSection setting heading issues) :=
  ⟨_, issueSection_eq setting heading issues⟩

theorem literalSection_eq (f : Findings) : literalSection f = if f.topLiterals.isEmpty then [] else
    (literalHead ++ f.topLiterals.map literalText ++ [[]]).flatMap line := by
  have hrow : literalRow = fun l => line (literalText l) := rfl
  rw [literalSection, literalHead, title, hrow, List.flatMap_append, List.flatMap_append,
    List.flatMap_map]
  split <;> simp

theorem linesOf_literalSection (f : Findings) :
    linesOf (literalSection f) = literalLines f.topLiterals := by
  rw [literalSection_eq, literalLines]
  split
  · rfl
  · rw [linesOf_flatMap_line, List.flatMap_append, List.flatMap_append, splitOn_heads.1,
      List.flatMap_map]
    rfl

theorem isWhole_literalSection (f : Findings) : IsWhole (literalSection f) := by
  rw [literalSection_eq]
  split
  · exact isWhole_nil
  · exact ⟨_, rfl⟩

/-! ## The report -/

/-- What stands above the sections of issues. -/
def reportHead (setting : Setting) (f : Findings) : Bytes :=
  title "# CSS Variable Report" ++ line ("_Generated " ++ setting.time ++ "_") ++
    line [] ++ headline f

/-- What stands below the table of literals. -/
def reportTail (f : Findings) : Bytes :=
  categorySection f ++ countSection f ++ noteSection f ++ line "---"
    ++ line "*Generated by cssvars enforce-variable v1.0*"

theorem isWhole_reportHead (setting : Setting) (f : Findings) : IsWhole (reportHead setting f) := by
  have htitle : ∀ s, IsWhole (title s) := fun s => (isWhole_line s).append (isWhole_line [])
  have hrow : ∀ cells, IsWhole (row cells) := fun cells => isWhole_line _
  refine (((htitle _).append (isWhole_line _)).append (isWhole_line _)).append ?_
  exact ((((((((htitle _).append (isWhole_line _)).append (isWhole_line _)).append (hrow _)).append
    (hrow _)).append (hrow _)).append (hrow _)).append (hrow _)).append (isWhole_line _)

/-- The section of a severity in the findings on a style sheet, line by line. -/
theorem linesOf_severity {f : Findings} (hgroups : f.issuesBySeverity = bySeverity f.issues)
    (setting : Setting) {heading : Bytes} (hheading : 0x0A ∉ heading) {severity : Bytes} {n : Int}
    (hn : n = countSeverity severity f.issues) :
    linesOf (if 0 < n then issueSection setting heading (issuesOf f severity) else []) =
      sectionLines setting heading (f.issues.filter fun i => i.severity == severity) := by
  have hissues : issuesOf f severity = f.issues.filter fun i => i.severity == severity := by
    rw [issuesOf, hgroups, lookup_bySeverity]
  have hlength : countSeverity severity f.issues =
      (f.issues.filter fun i => i.severity == severity).length := List.countP_eq_length_filter
  have hempty : (f.issues.filter fun i => i.severity == severity).isEmpty = true ↔ ¬0 < n := by
    rw [List.isEmpty_iff_length_eq_zero]
    omega
  rw [hissues, sectionLines]
  by_cases hpos : 0 < n
  · rw [if_pos hpos, if_neg fun h => hempty.1 h hpos, linesOf_issueSection hheading]
  · rw [if_neg hpos, if_pos (hempty.2 hpos)]
    rfl

/-- **The tables of the report on a style sheet**, line by line. Each severity with issues has a
section, and its table has a line for each of the first fifty issues and one more for each line feed
in what is shown of them; likewise for the literals. So every issue and every literal takes one
line, with four bars that are not escaped, exactly if nothing of what is shown holds a line feed. -/
theorem markdown_rows (rule : Rule) (o : CheckOptions) (setting : Setting)
    (filename content : Bytes) :
    let f := ofSource rule o filename content
    let errors := f.issues.filter fun i => i.severity == Severity.error
    let warnings := f.issues.filter fun i => i.severity == Severity.warning
    linesOf (markdown setting f) = linesOf (reportHead setting f) ++
        sectionLines setting "## ❌ Errors" errors ++
          sectionLines setting "## ⚠️ Warnings" warnings ++
        literalLines f.topLiterals ++ linesOf (reportTail f) ∧
      Rows (issueLines setting errors) (min 50 errors.length)
        ((errors.take 50).map (issueFeeds setting)).sum ∧
      Rows (issueLines setting warnings) (min 50 warnings.length)
        ((warnings.take 50).map (issueFeeds setting)).sum ∧
      Rows (literalRows f.topLiterals) f.topLiterals.length
        (f.topLiterals.map literalFeeds).sum := by
  intro f errors warnings
  have hissues : ∀ issues : List Issue, Rows (issueLines setting issues) (min 50 issues.length)
      ((issues.take 50).map (issueFeeds setting)).sum := by
    intro issues
    rw [← List.length_take]
    exact rows_flatMap _ _ (bars_issueText setting) (count_issueText setting) _
  refine ⟨?_, hissues errors, hissues warnings,
    rows_flatMap _ _ bars_literalText count_literalText _⟩
  have hwhole : ∀ (n : Int) (heading severity : Bytes),
      IsWhole (if 0 < n then issueSection setting heading (issuesOf f severity) else []) := by
    intro n heading severity
    split
    · exact isWhole_issueSection _ _ _
    · exact isWhole_nil
  have hparts : markdown setting f = reportHead setting f ++
      ((if 0 < f.errorCount then
        issueSection setting "## ❌ Errors" (issuesOf f Severity.error) else []) ++
      ((if 0 < f.warningCount then
        issueSection setting "## ⚠️ Warnings" (issuesOf f Severity.warning) else []) ++
      (literalSection f ++ reportTail f))) := by
    simp only [markdown, reportHead, reportTail, List.append_assoc]
  rw [hparts, linesOf_append (isWhole_reportHead setting f), linesOf_append (hwhole _ _ _),
    linesOf_append (hwhole _ _ _), linesOf_append (isWhole_literalSection f),
    linesOf_severity (n := f.errorCount) rfl setting (by decide) rfl,
    linesOf_severity (n := f.warningCount) rfl setting (by decide) rfl, linesOf_literalSection]
  simp only [List.append_assoc]
  rfl

/-- A style sheet with a value of two lines. -/
def brokenValue : Bytes := "a\x7bcolor:red\nblue\x7d"

/-- One issue takes two lines of its table, and neither of them has four bars. -/
theorem markdown_row_broken :
    ∃ rule, Rule.ofLiterals "/color/" [] = .ok rule ∧
      ((ofSource rule {} "a.css" brokenValue).issues.filter fun i =>
        i.severity == Severity.error).length = 1 ∧
      sectionLines ⟨"/", "now"⟩ "## ❌ Errors"
          ((ofSource rule {} "a.css" brokenValue).issues.filter fun i =>
            i.severity == Severity.error) =
        issueHead "## ❌ Errors" ++
          [Bytes.ofString "| \x60a.css:1:3\x60 | \x60color\x60 | \x60red",
          Bytes.ofString "blue\x60 |", []] ∧
      bars "| \x60a.css:1:3\x60 | \x60color\x60 | \x60red" = 3 ∧ bars "blue\x60 |" = 1 :=
  ⟨_, rfl, by decide +kernel, by decide +kernel, by decide, by decide⟩

end Report

end VarLint
