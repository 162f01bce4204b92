import Mathlib.Data.List.Nodup
import VarLint.Config.Load

/-!
# The names of a configuration file

A name stands in the table of a configuration file once. Keys of a mapping are written differently,
but two of them may have one name, of which the last counts; and mappings are merged, of which the
first wins.

* `nodup_ownEntries?`: the entries of a mapping itself
* `nodup_table?`: those of a mapping with all it merges, by induction over the tree
* `nodup_of_loadFile`: **the names of every file that is loaded are different**
-/

namespace VarLint.Config

open Yaml (Tree)

/-- The names of a table. -/
def names (t : Table) : List Bytes := t.map Prod.fst

theorem lookup_eq_none_iff {t : Table} {name : Bytes} : t.lookup name = none ↔ name ∉ names t := by
  rw [List.lookup_eq_none_iff, names, List.mem_map, not_exists]
  simp only [bne_iff_ne, ne_eq, not_and]
  exact forall₂_congr fun e _ => not_congr eq_comm

theorem nodup_addMissing {entries more : Table} (h : (names entries).Nodup)
    (hmore : (names more).Nodup) : (names (addMissing entries more)).Nodup := by
  rw [names, addMissing, List.map_append]
  refine h.append (hmore.sublist (List.filter_sublist.map Prod.fst)) fun n hn hn' => ?_
  obtain ⟨e, he, rfl⟩ := List.mem_map.1 hn'
  have hnone := (List.mem_filter.1 he).2
  rw [Option.isNone_iff_eq_none, lookup_eq_none_iff] at hnone
  exact hnone hn

section
variable {top : Bool}

theorem nodup_ownEntries? : ∀ {entries : List (Tree × Tree)} {own : Table},
    ownEntries? top entries = some own → (names own).Nodup
  | [], own, h => by
    rw [ownEntries?] at h
    cases h
    exact .nil
  | (key, tree) :: rest, own, h => by
    rw [ownEntries?] at h
    split at h
    · exact nodup_ownEntries? h
    · simp only [Option.bind_eq_bind, Option.bind_eq_some_iff] at h
      obtain ⟨name, -, v, -, vs, hvs, h⟩ := h
      have hrest := nodup_ownEntries? hvs
      cases name with
      | none =>
        cases h
        exact hrest
      | some name =>
        simp only at h
        split at h
        · cases h
          exact hrest
        · rename_i hnew
          cases h
          rw [Bool.not_eq_true, Option.isSome_eq_false_iff, Option.isNone_iff_eq_none,
            lookup_eq_none_iff] at hnew
          exact List.nodup_cons.2 ⟨hnew, hrest⟩

mutual

theorem nodup_table? : ∀ {entries : List (Tree × Tree)} {t : Table},
    table? top entries = some t → (names t).Nodup
  | entries, t, h => by
    rw [table?] at h
    split at h
    · simp only [Option.bind_eq_bind, Option.bind_eq_some_iff] at h
      obtain ⟨own, hown, merged, hmerged, h⟩ := h
      cases h
      exact nodup_addMissing (nodup_ownEntries? hown) (nodup_mergedEntries? hmerged)
    · cases h

theorem nodup_mergedEntries? : ∀ {entries : List (Tree × Tree)} {t : Table},
    mergedEntries? top entries = some t → (names t).Nodup
  | [], t, h => by
    rw [mergedEntries?] at h
    cases h
    exact .nil
  | (key, tree) :: rest, t, h => by
    rw [mergedEntries?] at h
    split at h
    · exact nodup_source? h
    · exact nodup_mergedEntries? h

theorem nodup_source? : ∀ {tree : Tree} {t : Table}, source? top tree = some t → (names t).Nodup
  | .mapping entries, t, h => by
    rw [source?] at h
    exact nodup_table? h
  | .alias _ (.mapping entries), t, h => by
    rw [source?] at h
    exact nodup_table? h
  | .sequence items, t, h => by
    rw [source?] at h
    exact nodup_sources? h
  | .scalar .., t, h => by simp [source?] at h
  | .alias _ (.scalar ..), t, h => by simp [source?] at h
  | .alias _ (.sequence ..), t, h => by simp [source?] at h
  | .alias _ (.alias ..), t, h => by simp [source?] at h

theorem nodup_sources? : ∀ {items : List Tree} {t : Table},
    sources? top items = some t → (names t).Nodup
  | [], t, h => by
    rw [sources?] at h
    cases h
    exact .nil
  | .mapping entries :: items, t, h => by
    simp only [sources?, Option.bind_eq_bind, Option.bind_eq_some_iff] at h
    obtain ⟨first, hfirst, more, hmore, h⟩ := h
    cases h
    exact nodup_addMissing (nodup_table? hfirst) (nodup_sources? hmore)
  | .alias _ (.mapping entries) :: items, t, h => by
    simp only [sources?, Option.bind_eq_bind, Option.bind_eq_some_iff] at h
    obtain ⟨first, hfirst, more, hmore, h⟩ := h
    cases h
    exact nodup_addMissing (nodup_table? hfirst) (nodup_sources? hmore)
  | .scalar .. :: items, t, h => by simp [sources?] at h
  | .sequence .. :: items, t, h => by simp [sources?] at h
  | .alias _ (.scalar ..) :: items, t, h => by simp [sources?] at h
  | .alias _ (.sequence ..) :: items, t, h => by simp [sources?] at h
  | .alias _ (.alias ..) :: items, t, h => by simp [sources?] at h

end

end

theorem nodup_settings? {content : Bytes} {t : Table} (h : settings? content = some t) :
    (names t).Nodup := by
  rw [settings?, Option.bind_eq_bind, Option.bind_eq_some_iff] at h
  obtain ⟨document, -, h⟩ := h
  split at h
  · cases h
    exact .nil
  · exact nodup_table? h
  · simp only [Option.bind_eq_bind, Option.bind_eq_some_iff] at h
    obtain ⟨found, -, h⟩ := h
    split at h
    · cases h
      exact .nil
    · cases h
  · cases h

/-- **The names of a file that is loaded are different.** -/
theorem nodup_of_loadFile {disk : Disk} {path : Bytes} {file : Table}
    (h : loadFile disk path = .ok file) : (names file).Nodup := by
  unfold loadFile at h
  split at h
  · cases h
    exact .nil
  · split at h
    · cases h
    · split at h
      · rename_i hsettings
        cases h
        exact nodup_settings? hsettings
      · cases h

end VarLint.Config
