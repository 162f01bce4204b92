import VarLint.Config.Settings
import VarLint.Proofs.DiskPlaces
import VarLint.Proofs.LineLayout
import VarLint.Proofs.LoadedNames

/-!
# Settings in layers

Which of its layers a setting comes from. A flag stands at the top of the table under its own name;
a variable and the file have the setting in its section.

* `lookup_overlay`, `inSection_overlay`: one layer over another, by names and by sections
* `find?_of_no_point`, `find?_section`: what the path of a setting leads to
* `put_section`, `ofEnvironment_fold`: what one variable sets, and what all of them do
* `find?_sectioned`, `find?_shared`, `value?_ofLayers`: the value of a setting in all layers
-/

namespace VarLint.Config

/-! ## Tables -/

theorem overlay_cons (old : Table) (name : Bytes) (v : Value) (rest : Table) :
    overlay old ((name, v) :: rest) =
      overlay ((name, overlayValue (old.lookup name) v) ::
        old.filter fun e => !(e.1 == name)) rest := by
  rw [overlay]

@[simp] theorem overlay_nil (old : Table) : overlay old [] = old := by
  rw [overlay]

/-- An entry in front of a table without its name. -/
theorem nodup_cons_without {t : Table} (ht : (names t).Nodup) (name : Bytes) :
    (name :: names (t.filter fun e => !(e.1 == name))).Nodup := by
  refine List.nodup_cons.2 ⟨?_, ht.sublist (List.filter_sublist.map Prod.fst)⟩
  intro hmem
  obtain ⟨e, he, hname⟩ := List.mem_map.1 hmem
  have := (List.mem_filter.1 he).2
  simp [hname] at this

/-- **What a name has in a layer over another**, when the names of the layer are all different. -/
theorem lookup_overlay {new : Table} (hnew : (names new).Nodup) : ∀ (old : Table) (name : Bytes),
    (overlay old new).lookup name = match new.lookup name with
      | some v => some (overlayValue (old.lookup name) v)
      | none => old.lookup name := by
  induction new with
  | nil => intro old name; simp
  | cons e new ih =>
    obtain ⟨n, v⟩ := e
    obtain ⟨hn, hrest⟩ := List.nodup_cons.1 (show (n :: names new).Nodup from hnew)
    intro old name
    rw [overlay_cons, ih hrest, lookup_cons_ite, lookup_cons_ite, lookup_without]
    by_cases h : name = n
    · subst h
      simp [lookup_eq_none_iff.2 hn]
    · simp [h]

theorem overlayValue_none (v : Value) : overlayValue none v = v := by
  cases v <;> simp [overlayValue]

theorem lookup_overlay_single (old : Table) (n : Bytes) (v : Value) (name : Bytes) :
    (overlay old [(n, v)]).lookup name =
      if name = n then some (overlayValue (old.lookup n) v) else old.lookup name := by
  rw [lookup_overlay (by simp [names]), lookup_cons_ite]
  by_cases h : name = n
  · simp [h]
  · simp [h]

/-- A layer over nothing. -/
theorem lookup_overlay_empty {t : Table} (ht : (names t).Nodup) (name : Bytes) :
    (overlay [] t).lookup name = t.lookup name := by
  rw [lookup_overlay ht]
  cases t.lookup name with
  | none => rfl
  | some v => exact congrArg some (overlayValue_none v)

theorem mem_names_overlay {new : Table} {name : Bytes} :
    ∀ {old : Table}, name ∈ names (overlay old new) →
    name ∈ names old ∨ name ∈ names new := by
  induction new with
  | nil => intro old h; exact .inl (by simpa using h)
  | cons e new ih =>
    obtain ⟨n, v⟩ := e
    intro old h
    rw [overlay_cons] at h
    rcases ih h with h | h
    · rw [names, List.map_cons, List.mem_cons] at h
      rcases h with rfl | h
      · exact .inr (by simp [names])
      · obtain ⟨e, he, rfl⟩ := List.mem_map.1 h
        exact .inl (List.mem_map_of_mem (List.mem_of_mem_filter he))
    · exact .inr (List.mem_cons_of_mem _ h)

theorem nodup_names_overlay {new : Table} : ∀ {old : Table}, (names old).Nodup →
    (names (overlay old new)).Nodup := by
  induction new with
  | nil => intro old h; simpa using h
  | cons e new ih =>
    obtain ⟨n, v⟩ := e
    intro old h
    rw [overlay_cons]
    exact ih (nodup_cons_without h n)

/-! ## Paths -/

/-- A name without points is found by its name. -/
theorem find?_of_no_point {path : Bytes} (hpath : point ∉ path) :
    ∀ t : Table, find? path t = t.lookup path
  | [] => by rw [find?]; rfl
  | (name, v) :: t => by
    have hbelow : below? name path = none := by
      rw [below?, if_neg]
      intro h
      exact hpath ((List.isPrefixOf_iff_prefix.1 h).subset (by simp))
    rw [find?, lookup_cons_ite, hbelow, find?_of_no_point hpath t]
    by_cases h : name = path
    · simp [h]
    · simp [h, Ne.symm h]

theorem below?_section {name sec opt : Bytes} (hsec : point ∉ sec) (hopt : point ∉ opt) :
    below? name (sec ++ point :: opt) = if name = sec then some opt else none := by
  by_cases h : name = sec
  · subst h
    rw [below?, if_pos rfl, if_pos]
    · rw [show name ++ point :: opt = (name ++ [point]) ++ opt by simp, List.drop_left]
    · rw [List.isPrefixOf_iff_prefix, show name ++ point :: opt = (name ++ [point]) ++ opt by simp]
      exact List.prefix_append _ _
  · rw [below?, if_neg h, if_neg]
    intro hpre
    obtain ⟨t, ht⟩ := List.isPrefixOf_iff_prefix.1 hpre
    rw [List.append_assoc, List.singleton_append] at ht
    -- the first point of the path is the one behind the section
    rcases List.append_eq_append_iff.1 ht with ⟨u, hu, htail⟩ | ⟨u, hu, htail⟩
    · cases u with
      | nil => exact h (by simpa using hu.symm)
      | cons b u =>
        obtain rfl : point = b := by simpa using congrArg List.head? htail
        exact hsec (by rw [hu]; simp)
    · cases u with
      | nil => exact h (by simpa using hu)
      | cons b u =>
        rw [List.cons_append, List.cons.injEq] at htail
        exact hopt (by rw [htail.2]; simp)

/-- What a section has under the name of an option. -/
def inSection (sec opt : Bytes) (t : Table) : Option Value := (t.lookup sec).bind (within opt)

theorem within_table {opt : Bytes} (hopt : point ∉ opt) (es : Table) :
    within opt (.table es) = es.lookup opt := by
  rw [within, find?_of_no_point hopt]

/-- **An option of a section is found in the section**, unless the table has its whole path as a
name. -/
theorem find?_section {sec opt : Bytes} (hsec : point ∉ sec) (hopt : point ∉ opt) : ∀ {t : Table},
    (names t).Nodup → sec ++ point :: opt ∉ names t →
      find? (sec ++ point :: opt) t = inSection sec opt t
  | [], _, _ => by rw [find?]; rfl
  | (name, v) :: t, hnodup, hdot => by
    obtain ⟨hname, hrest⟩ := List.nodup_cons.1 (show (name :: names t).Nodup from hnodup)
    rw [names, List.map_cons, List.mem_cons, not_or] at hdot
    have ih := find?_section hsec hopt hrest hdot.2
    rw [find?, if_neg (by simpa using Ne.symm hdot.1), below?_section hsec hopt, inSection,
      lookup_cons_ite]
    by_cases h : name = sec
    · subst h
      rw [if_pos rfl, if_pos rfl, Option.bind_some]
      simp only
      cases hfound : within opt v with
      | some found => rfl
      | none => simp [ih, inSection, lookup_eq_none_iff.2 hname]
    · rw [if_neg h, if_neg (Ne.symm h)]
      exact ih

/-! ## Layers -/

/-- The value is no table. -/
def IsFlat : Value → Prop
  | .table _ => False
  | _ => True

theorem overlayValue_flat (old : Option Value) {v : Value} (hv : IsFlat v) :
    overlayValue old v = v := by
  cases v with
  | table es => cases hv
  | _ => rw [overlayValue]; simp

/-- **A section over a section** has the options of the upper one, and below them those of the
lower. -/
theorem inSection_overlay {sec opt : Bytes} (hopt : point ∉ opt) {old new : Table}
    (hnew : (names new).Nodup)
    (hsection : new.lookup sec = none ∨
      ∃ es, new.lookup sec = some (.table es) ∧ (names es).Nodup ∧ ∀ v ∈ es.lookup opt, IsFlat v) :
    inSection sec opt (overlay old new) = (inSection sec opt new).or (inSection sec opt old) := by
  rw [inSection, lookup_overlay hnew, inSection, inSection]
  rcases hsection with hnone | ⟨es, hes, hnodup, hflat⟩
  · simp [hnone]
  · rw [hes]
    simp only [Option.bind_some]
    rw [within_table hopt]
    cases hold : old.lookup sec with
    | none => simp [overlayValue, within_table hopt]
    | some w =>
      cases w with
      | table fs =>
        rw [overlayValue, within_table hopt, lookup_overlay hnodup, Option.bind_some,
          within_table hopt]
        cases hopt' : es.lookup opt with
        | none => rfl
        | some v => simp [overlayValue_flat _ (hflat v hopt')]
      | _ => simp [overlayValue, within_table hopt, within]

theorem lookup_overlay_flat {name : Bytes} {old new : Table} (hnew : (names new).Nodup)
    (hflat : ∀ v ∈ new.lookup name, IsFlat v) :
    (overlay old new).lookup name = (new.lookup name).or (old.lookup name) := by
  rw [lookup_overlay hnew]
  cases h : new.lookup name with
  | none => rfl
  | some v => simp [overlayValue_flat _ (hflat v h)]

/-! ## The environment -/

/-- The text of the last variable that stands for a setting. -/
def fromVariables? (environment : List (Bytes × Bytes)) (path : Bytes) : Option Bytes :=
  (environment.reverse.find? fun v =>
    environmentStart.isPrefixOf v.1 && pathOfVariable v.1 == path).map Prod.snd

theorem put_eq {path n : Bytes} {ns : List Bytes}
    (hpath : Bytes.splitOn point path = n :: ns) (t : Table) (v : Value) :
    put t path v = overlay t [(n, nest v ns)] := by
  rw [put, hpath, nest]

theorem lookup_put {path n : Bytes} {ns : List Bytes}
    (hpath : Bytes.splitOn point path = n :: ns) (t : Table) (v : Value) (m : Bytes) :
    (put t path v).lookup m =
      if m = n then some (overlayValue (t.lookup n) (nest v ns)) else t.lookup m := by
  rw [put_eq hpath, lookup_overlay_single]

theorem nodup_names_put {t : Table} (ht : (names t).Nodup) (path : Bytes) (v : Value) :
    (names (put t path v)).Nodup := by
  obtain ⟨n, ns, hpath⟩ := Bytes.exists_splitOn_cons point path
  rw [put_eq hpath]
  exact nodup_names_overlay ht

/-- **What the variables set, one after another.** -/
theorem ofEnvironment_fold (holds : Table → Prop) (view : Table → Option Value) {target : Bytes}
    (htarget : target ≠ []) (hstart : holds [] ∧ view [] = none) :
    ∀ {environment : List (Bytes × Bytes)},
    (∀ v ∈ environment, environmentStart.isPrefixOf v.1 = true → pathOfVariable v.1 ≠ [] →
    ∀ t, holds t →
      holds (put t (pathOfVariable v.1) (.text v.2)) ∧
        view (put t (pathOfVariable v.1) (.text v.2)) =
          if pathOfVariable v.1 = target then some (.text v.2) else view t) →
    holds (ofEnvironment environment) ∧
      view (ofEnvironment environment) = (fromVariables? environment target).map .text := by
  intro environment
  -- the last variable is read last
  induction environment using List.reverseRecOn with
  | nil => exact fun _ => hstart
  | append_singleton vs v ih =>
    intro hstep
    obtain ⟨hholds, hview⟩ := ih fun w hw => hstep w (List.mem_append_left _ hw)
    have hlast : fromVariables? (vs ++ [v]) target =
        if environmentStart.isPrefixOf v.1 && pathOfVariable v.1 == target then some v.2
        else fromVariables? vs target := by
      rw [fromVariables?, List.reverse_append, List.reverse_singleton, List.singleton_append,
        List.find?_cons]
      split <;> simp_all [fromVariables?]
    rw [ofEnvironment, List.filter_append, List.foldl_append, hlast]
    by_cases hv : environmentStart.isPrefixOf v.1 = true ∧ pathOfVariable v.1 ≠ []
    · obtain ⟨hput, hviewput⟩ := hstep v (by simp) hv.1 hv.2 _ hholds
      rw [List.filter_cons_of_pos (by simpa using hv), List.filter_nil, List.foldl_cons,
        List.foldl_nil]
      refine ⟨hput, hviewput.trans ?_⟩
      by_cases htv : pathOfVariable v.1 = target
      · simp [htv, hv.1]
      · simp [htv, hview]
    · rw [List.filter_cons_of_neg (by simpa using hv), List.filter_nil, List.foldl_nil, if_neg]
      · exact ⟨hholds, hview⟩
      · intro h
        rw [Bool.and_eq_true, beq_iff_eq] at h
        exact hv ⟨h.1, h.2 ▸ htarget⟩

/-! ## The documented settings -/

namespace Setting

/-- The settings that are numbers and switches. -/
def scalars : List Setting :=
  [concurrency, maxIssues, maxSame, threshold, strict, printLines, printLinter, watch,
    cacheSize, verbose, quiet, color]

/-- The settings of a section that are texts. -/
def sectionTexts : List Setting := [properties, exceptionValues, severity, outputFormat]

/-- The settings whose layers are compared. -/
def documented : List Setting := scalars ++ sectionTexts

/-- The setting has a section, in which it stands under its name on the command line. -/
def isSectioned (s : Setting) : Bool := !(s.path == s.flag)

theorem no_point_of_documented : ∀ s ∈ documented, point ∉ s.flag := by decide

theorem section_of_documented : ∀ s ∈ documented, s.isSectioned = true →
    ∃ sec ∈ sections, s.path = sec ++ point :: s.flag := by decide

theorem isSectioned_of_sectionTexts : ∀ s ∈ sectionTexts, s.isSectioned = true := by decide

theorem path_eq_of_not_sectioned {s : Setting} (h : s.isSectioned = false) : s.path = s.flag := by
  simpa [isSectioned] using h

end Setting

theorem no_point_of_section : ∀ sec ∈ sections, point ∉ sec := by decide

/-- The options of a file stand in their sections. -/
structure PlainFile (file : Table) : Prop where
  no_flag : ∀ s ∈ Setting.documented, s.isSectioned = true → s.flag ∉ names file
  no_path : ∀ s ∈ Setting.documented, s.isSectioned = true → s.path ∉ names file

/-- No variable stands for a whole section, for something below an option, or for an option of a
section without its section. -/
structure PlainEnvironment (environment : List (Bytes × Bytes)) : Prop where
  no_section : ∀ v ∈ environment, environmentStart.isPrefixOf v.1 = true →
    pathOfVariable v.1 ∉ sections
  no_below : ∀ v ∈ environment, environmentStart.isPrefixOf v.1 = true → ∀ s ∈ Setting.documented,
    ¬ s.path ++ [point] <+: pathOfVariable v.1
  no_flag : ∀ v ∈ environment, environmentStart.isPrefixOf v.1 = true → ∀ s ∈ Setting.documented,
    s.isSectioned = true → pathOfVariable v.1 ≠ s.flag ∧ ¬ s.flag ++ [point] <+: pathOfVariable v.1

/-- The values of flags: no tables, and none under the name of a section. -/
structure IsFlagTable (flags : Table) : Prop where
  nodup : (names flags).Nodup
  flat : ∀ e ∈ flags, IsFlat e.2
  no_section : ∀ n ∈ names flags, n ∉ sections
  no_point : ∀ n ∈ names flags, point ∉ n

section

variable {environment : List (Bytes × Bytes)} {s : Setting}

theorem eq_of_splitOn_single {path n : Bytes} (h : Bytes.splitOn point path = [n]) : path = n := by
  rw [← Bytes.join_splitOn point path, h]
  rfl

theorem eq_of_splitOn_pair {path n m : Bytes} (h : Bytes.splitOn point path = [n, m]) :
    path = n ++ point :: m := by
  rw [← Bytes.join_splitOn point path, h]
  simp [Bytes.join]

theorem prefix_of_splitOn {path n m : Bytes} {ns : List Bytes}
    (h : Bytes.splitOn point path = n :: m :: ns) : n ++ [point] <+: path := by
  have hjoin : path = (n ++ [point]) ++ Bytes.join [point] (m :: ns) := by
    rw [← Bytes.join_splitOn point path, h]
    rfl
  exact hjoin ▸ List.prefix_append _ _

theorem prefix_of_splitOn_pair {path n m k : Bytes} {ns : List Bytes}
    (h : Bytes.splitOn point path = n :: m :: k :: ns) : (n ++ point :: m) ++ [point] <+: path := by
  have hjoin : path = (n ++ [point]) ++ ((m ++ [point]) ++ Bytes.join [point] (k :: ns)) := by
    rw [← Bytes.join_splitOn point path, h]
    rfl
  exact ⟨Bytes.join [point] (k :: ns), by rw [hjoin]; simp⟩

theorem splitOn_section {sec opt : Bytes} (hsec : point ∉ sec) (hopt : point ∉ opt) :
    Bytes.splitOn point (sec ++ point :: opt) = [sec, opt] := by
  have htail : Bytes.splitOn point (point :: opt) = [] :: [opt] := by
    rw [Bytes.splitOn_cons_self, Bytes.splitOn_of_not_mem hopt]
  have hfront : Bytes.splitOn point sec = [] ++ [sec] := Bytes.splitOn_of_not_mem hsec
  simpa using Bytes.splitOn_append htail hfront

theorem no_point_of_mem_splitOn {path n : Bytes} (hn : n ∈ Bytes.splitOn point path) :
    point ∉ n := by
  induction path generalizing n with
  | nil =>
    obtain rfl : n = [] := by simpa [Bytes.splitOn] using hn
    simp
  | cons b path ih =>
    obtain ⟨first, rest, hsplit⟩ := Bytes.exists_splitOn_cons point path
    rw [hsplit] at ih
    by_cases hb : b = point
    · subst hb
      rw [Bytes.splitOn_cons_self, hsplit, List.mem_cons] at hn
      rcases hn with rfl | hn
      · simp
      · exact ih hn
    · rw [Bytes.splitOn_cons_of_ne hb hsplit, List.mem_cons] at hn
      rcases hn with rfl | hn
      · rw [List.mem_cons, not_or]
        exact ⟨Ne.symm hb, ih List.mem_cons_self⟩
      · exact ih (List.mem_cons_of_mem _ hn)

/-- The names of the environment are all different and without points. -/
theorem names_ofEnvironment (environment : List (Bytes × Bytes)) :
    (names (ofEnvironment environment)).Nodup ∧
      ∀ n ∈ names (ofEnvironment environment), point ∉ n := by
  refine List.foldlRecOn (motive := fun t => (names t).Nodup ∧ ∀ n ∈ names t, point ∉ n) _ _
    ⟨by simp [names], by simp [names]⟩ fun t ht v _ => ⟨nodup_names_put ht.1 _ _, fun n hn => ?_⟩
  obtain ⟨m, ms, hpath⟩ := Bytes.exists_splitOn_cons point (pathOfVariable v.1)
  rw [put_eq hpath] at hn
  rcases mem_names_overlay hn with hn | hn
  · exact ht.2 n hn
  · obtain rfl : n = m := by simpa [names] using hn
    exact no_point_of_mem_splitOn (hpath ▸ List.mem_cons_self)

/-- A section that variables can fill: it is not there, or a table with different names in which an
option has no table. -/
def IsOpenSection (sec opt : Bytes) (t : Table) : Prop :=
  t.lookup sec = none ∨
    ∃ es, t.lookup sec = some (.table es) ∧ (names es).Nodup ∧ ∀ v ∈ es.lookup opt, IsFlat v

/-- What is set below a section goes into its entries. -/
theorem IsOpenSection.exists_put {sec opt path m : Bytes} {ns : List Bytes} (hopt : point ∉ opt)
    (hpath : Bytes.splitOn point path = sec :: m :: ns) {t : Table} (ht : IsOpenSection sec opt t)
    (v : Value) :
    ∃ es : Table, (put t path v).lookup sec = some (.table (overlay es [(m, nest v ns)])) ∧
      (names es).Nodup ∧ (∀ w ∈ es.lookup opt, IsFlat w) ∧ inSection sec opt t = es.lookup opt := by
  rcases ht with hnone | ⟨es, hes, hnodup, hflat⟩
  · refine ⟨[], ?_, by simp [names], by simp, by simp [inSection, hnone]⟩
    rw [lookup_put hpath, if_pos rfl, hnone, overlayValue_none, overlay_cons, overlay_nil, nest]
    simp [overlayValue_none]
  · refine ⟨es, ?_, hnodup, hflat, by simp [inSection, hes, within_table hopt]⟩
    rw [lookup_put hpath, if_pos rfl, hes, nest, overlayValue]

/-- One variable sets the option it stands for, and no other. -/
theorem put_section {sec opt path x : Bytes} (hsec : point ∉ sec) (hopt : point ∉ opt)
    (hne : path ≠ sec) (hbelow : ¬ (sec ++ point :: opt) ++ [point] <+: path) {t : Table}
    (ht : IsOpenSection sec opt t) :
    IsOpenSection sec opt (put t path (.text x)) ∧
      inSection sec opt (put t path (.text x)) =
        if path = sec ++ point :: opt then some (.text x) else inSection sec opt t := by
  obtain ⟨n, ns, hpath⟩ := Bytes.exists_splitOn_cons point path
  -- another path leads to another section, or to another option of it
  have hother : n :: ns ≠ [sec, opt] → path ≠ sec ++ point :: opt := by
    rintro hnames rfl
    rw [splitOn_section hsec hopt] at hpath
    exact hnames hpath.symm
  by_cases hn : sec = n
  case neg =>
    have hsame : (put t path (.text x)).lookup sec = t.lookup sec := by
      rw [lookup_put hpath, if_neg hn]
    rw [if_neg (hother (by simp [Ne.symm hn])), IsOpenSection, inSection, hsame]
    exact ⟨ht, rfl⟩
  case pos =>
    subst hn
    cases ns with
    | nil => exact absurd (eq_of_splitOn_single hpath) hne
    | cons m ns =>
      obtain ⟨es, hes, hnodup, hflat, hview⟩ := ht.exists_put hopt hpath (.text x)
      have hnew : inSection sec opt (put t path (.text x)) =
          if opt = m then some (overlayValue (es.lookup m) (nest (.text x) ns))
          else es.lookup opt := by
        rw [inSection, hes, Option.bind_some, within_table hopt, lookup_overlay_single]
      have hopen : (∀ w ∈ inSection sec opt (put t path (.text x)), IsFlat w) →
          IsOpenSection sec opt (put t path (.text x)) := by
        intro h
        rw [inSection, hes, Option.bind_some, within_table hopt] at h
        exact .inr ⟨_, hes, nodup_names_overlay hnodup, h⟩
      by_cases hm : opt = m
      · subst hm
        cases ns with
        | nil =>
          rw [if_pos rfl, nest, overlayValue_flat _ (by simp [IsFlat])] at hnew
          rw [if_pos (eq_of_splitOn_pair hpath)]
          exact ⟨hopen (by simp [hnew, IsFlat]), hnew⟩
        | cons k ns => exact absurd (prefix_of_splitOn_pair hpath) hbelow
      · rw [if_neg hm] at hnew
        rw [if_neg (hother (by simp [Ne.symm hm])), hview]
        exact ⟨hopen (by rwa [hnew]), hnew⟩

theorem put_shared {name path x : Bytes} (hname : point ∉ name)
    (hbelow : ¬ name ++ [point] <+: path) (t : Table) :
    (put t path (.text x)).lookup name = if path = name then some (.text x) else t.lookup name := by
  obtain ⟨n, ns, hpath⟩ := Bytes.exists_splitOn_cons point path
  rw [lookup_put hpath]
  by_cases hn : name = n
  · subst hn
    match ns, hpath with
    | [], hpath =>
      rw [if_pos rfl, if_pos (eq_of_splitOn_single hpath), nest,
        overlayValue_flat _ (by simp [IsFlat])]
    | m :: ns, hpath => exact absurd (prefix_of_splitOn hpath) hbelow
  · rw [if_neg hn, if_neg]
    rintro rfl
    rw [Bytes.splitOn_of_not_mem hname, List.cons.injEq] at hpath
    exact hn hpath.1

/-! ## What each layer has -/

theorem section_ofEnvironment (henv : PlainEnvironment environment) (hs : s ∈ Setting.documented)
    {sec : Bytes} (hsec : sec ∈ sections) (hpath : s.path = sec ++ point :: s.flag) :
    IsOpenSection sec s.flag (ofEnvironment environment) ∧
      inSection sec s.flag (ofEnvironment environment) =
        (fromVariables? environment s.path).map .text := by
  refine ofEnvironment_fold (IsOpenSection sec s.flag) (inSection sec s.flag) (by rw [hpath]; simp)
    ⟨.inl rfl, rfl⟩ fun v hv hstart _ t ht => ?_
  rw [hpath]
  refine put_section (no_point_of_section sec hsec) (Setting.no_point_of_documented s hs) ?_ ?_ ht
  · exact fun h => henv.no_section v hv hstart (h ▸ hsec)
  · exact hpath ▸ henv.no_below v hv hstart s hs

theorem lookup_ofEnvironment {name : Bytes} (hname : point ∉ name) (hne : name ≠ [])
    (hbelow : ∀ v ∈ environment, environmentStart.isPrefixOf v.1 = true →
      ¬ name ++ [point] <+: pathOfVariable v.1) :
    (ofEnvironment environment).lookup name = (fromVariables? environment name).map .text :=
  (ofEnvironment_fold (fun _ => True) (fun t => t.lookup name) hne ⟨trivial, rfl⟩
    fun v hv hstart _ t _ => ⟨trivial, put_shared hname (hbelow v hv hstart) t⟩).2

theorem flag_ne_nil : ∀ s ∈ Setting.documented, s.flag ≠ [] := by decide

theorem shared_ofEnvironment (henv : PlainEnvironment environment) (hs : s ∈ Setting.documented)
    (hshared : s.path = s.flag) :
    (ofEnvironment environment).lookup s.flag = (fromVariables? environment s.path).map .text := by
  rw [hshared]
  exact lookup_ofEnvironment (Setting.no_point_of_documented s hs) (flag_ne_nil s hs)
    fun v hv hstart => hshared ▸ henv.no_below v hv hstart s hs

theorem flag_ofEnvironment (henv : PlainEnvironment environment) (hs : s ∈ Setting.documented)
    (hsection : s.isSectioned = true) : (ofEnvironment environment).lookup s.flag = none := by
  have hnone : fromVariables? environment s.flag = none := by
    rw [fromVariables?, Option.map_eq_none_iff, List.find?_eq_none]
    intro v hv h
    rw [Bool.and_eq_true, beq_iff_eq] at h
    exact (henv.no_flag v (List.mem_reverse.1 hv) h.1 s hs hsection).1 h.2
  rw [lookup_ofEnvironment (Setting.no_point_of_documented s hs) (flag_ne_nil s hs)
    fun v hv hstart => (henv.no_flag v hv hstart s hs hsection).2, hnone]
  rfl

variable {file flags : Table}

theorem lookup_flags_flat (hflags : IsFlagTable flags) {name : Bytes} :
    ∀ v ∈ flags.lookup name, IsFlat v := by
  intro v hv
  obtain ⟨front, back, hsplit, -⟩ := List.lookup_eq_some_iff.1 hv
  exact hflags.flat (name, v) (by simp [hsplit])

/-- All names of the layers together are different. -/
theorem nodup_ofLayers (file environment flags : Table) :
    (names (ofLayers file environment flags)).Nodup :=
  nodup_names_overlay (nodup_names_overlay (nodup_names_overlay (by simp [names])))

theorem path_not_mem_ofLayers (environment : List (Bytes × Bytes)) (hfile : PlainFile file)
    (hflags : IsFlagTable flags) (hs : s ∈ Setting.documented) (hsection : s.isSectioned = true) :
    s.path ∉ names (ofLayers file (ofEnvironment environment) flags) := by
  obtain ⟨sec, -, hpath⟩ := Setting.section_of_documented s hs hsection
  have hpoint : point ∈ s.path := by rw [hpath]; simp
  intro h
  rcases mem_names_overlay h with h | h
  · rcases mem_names_overlay h with h | h
    · rcases mem_names_overlay h with h | h
      · simp [names] at h
      · exact hfile.no_path s hs hsection h
    · exact (names_ofEnvironment environment).2 _ h hpoint
  · exact hflags.no_point _ h hpoint

/-- What stands below the flags at a path: the text of its variable, or else what the file has. -/
def belowFlags? (file : Table) (environment : List (Bytes × Bytes)) (path : Bytes) : Option Value :=
  ((fromVariables? environment path).map .text).or (find? path file)

/-- **A setting of a section in the layers.** Under its name on the command line is what its flag
says, and in its section what its variable says, or else the file. -/
theorem find?_sectioned (hnodup : (names file).Nodup) (hfile : PlainFile file)
    (henv : PlainEnvironment environment) (hflags : IsFlagTable flags)
    (hs : s ∈ Setting.documented) (hsection : s.isSectioned = true) :
    find? s.flag (ofLayers file (ofEnvironment environment) flags) = flags.lookup s.flag ∧
      find? s.path (ofLayers file (ofEnvironment environment) flags) =
        belowFlags? file environment s.path := by
  obtain ⟨sec, hsec, hpath⟩ := Setting.section_of_documented s hs hsection
  have hopt := Setting.no_point_of_documented s hs
  have hpoint := no_point_of_section sec hsec
  constructor
  · have hfileflag : file.lookup s.flag = none := lookup_eq_none_iff.2 (hfile.no_flag s hs hsection)
    rw [find?_of_no_point hopt, ofLayers,
      lookup_overlay_flat hflags.nodup (lookup_flags_flat hflags),
      lookup_overlay (names_ofEnvironment environment).1, flag_ofEnvironment henv hs hsection,
      lookup_overlay_empty hnodup, hfileflag]
    simp
  · obtain ⟨hopen, hview⟩ := section_ofEnvironment henv hs hsec hpath
    have hnone : flags.lookup sec = none :=
      lookup_eq_none_iff.2 fun h => hflags.no_section sec h hsec
    have halone : find? s.path file = inSection sec s.flag file := by
      have hdot := hfile.no_path s hs hsection
      rw [hpath] at hdot ⊢
      exact find?_section hpoint hopt hnodup hdot
    have hdot := path_not_mem_ofLayers environment hfile hflags hs hsection
    rw [belowFlags?, halone, ← hview]
    rw [hpath] at hdot ⊢
    rw [find?_section hpoint hopt (nodup_ofLayers _ _ _) hdot, ofLayers,
      inSection_overlay hopt hflags.nodup (.inl hnone),
      inSection_overlay hopt (names_ofEnvironment environment).1 hopen]
    simp [inSection, hnone, lookup_overlay_empty hnodup]

/-- **A setting without a section in the layers.** -/
theorem find?_shared (hnodup : (names file).Nodup) (henv : PlainEnvironment environment)
    (hflags : IsFlagTable flags) (hs : s ∈ Setting.documented) (hshared : s.isSectioned = false) :
    find? s.path (ofLayers file (ofEnvironment environment) flags) =
      (flags.lookup s.flag).or (belowFlags? file environment s.path) := by
  have hpath := Setting.path_eq_of_not_sectioned hshared
  have hopt := Setting.no_point_of_documented s hs
  have hlookup := shared_ofEnvironment henv hs hpath
  have hflat : ∀ v ∈ (ofEnvironment environment).lookup s.flag, IsFlat v := by
    rw [hlookup]
    intro v hv
    obtain ⟨x, -, rfl⟩ := Option.map_eq_some_iff.1 hv
    simp [IsFlat]
  rw [belowFlags?, ← hlookup, hpath, find?_of_no_point hopt, find?_of_no_point hopt, ofLayers,
    lookup_overlay_flat hflags.nodup (lookup_flags_flat hflags),
    lookup_overlay_flat (names_ofEnvironment environment).1 hflat, lookup_overlay_empty hnodup]

/-- **The value of a setting in the layers:** that of its flag, or else the one below. -/
theorem value?_ofLayers (hnodup : (names file).Nodup) (hfile : PlainFile file)
    (henv : PlainEnvironment environment) (hflags : IsFlagTable flags)
    (hs : s ∈ Setting.documented) :
    s.value? (ofLayers file (ofEnvironment environment) flags) =
      (flags.lookup s.flag).or (belowFlags? file environment s.path) := by
  cases hsection : s.isSectioned with
  | true =>
    obtain ⟨hflag, hpath⟩ := find?_sectioned hnodup hfile henv hflags hs hsection
    rw [Setting.value?, hflag, hpath]
  | false =>
    have hpath := Setting.path_eq_of_not_sectioned hsection
    have hshared := find?_shared hnodup henv hflags hs hsection
    rw [hpath] at hshared
    rw [Setting.value?, hpath, hshared, Option.or_self]

/-- A value under a name that is neither a section nor a setting leaves the settings as they are. -/
theorem find?_put_other {name : Bytes} (hname : point ∉ name) (hsections : name ∉ sections)
    (hs : s ∈ Setting.documented) (hother : s.flag ≠ name) {t : Table} (ht : (names t).Nodup)
    (hdot : s.isSectioned = true → s.path ∉ names t) (v : Value) :
    find? s.flag (put t name v) = find? s.flag t ∧
      find? s.path (put t name v) = find? s.path t := by
  have hopt := Setting.no_point_of_documented s hs
  have hlookup : ∀ m, m ≠ name → (put t name v).lookup m = t.lookup m := fun m hm => by
    rw [lookup_put (Bytes.splitOn_of_not_mem hname), if_neg hm]
  have hflag : find? s.flag (put t name v) = find? s.flag t := by
    rw [find?_of_no_point hopt, find?_of_no_point hopt, hlookup _ hother]
  refine ⟨hflag, ?_⟩
  cases hsection : s.isSectioned with
  | false => rw [Setting.path_eq_of_not_sectioned hsection, hflag]
  | true =>
    obtain ⟨sec, hsec, hpath⟩ := Setting.section_of_documented s hs hsection
    have hpoint := no_point_of_section sec hsec
    have hdot' : s.path ∉ names (put t name v) := by
      rw [put_eq (Bytes.splitOn_of_not_mem hname)]
      intro h
      rcases mem_names_overlay h with h | h
      · exact hdot hsection h
      · obtain heq : s.path = name := by simpa [names] using h
        exact hname (by rw [← heq, hpath]; simp)
    have hdot := hdot hsection
    rw [hpath] at hdot hdot' ⊢
    rw [find?_section hpoint hopt (nodup_names_put ht _ _) hdot',
      find?_section hpoint hopt ht hdot, inSection,
      hlookup sec (fun h => hsections (h ▸ hsec)), inSection]

end

end VarLint.Config
