import Mathlib.Data.List.Induction
import Mathlib.Data.List.Nodup
import Inlay.Files.Collect

/-!
# Files are collected once

Adding only what is new is keeping first occurrences (`foldl_addNew`), so that the files of two
lists of paths, one after the other, are those of the first and behind them what is new in the
second (`collectFrom_append`). Nothing is assumed of how directories are searched but that the same
search finds the same files.
-/

namespace Inlay.Collect

variable {ds : Directories} {exclude inputs : List Text} {directory file path : Text}

theorem addNew_eraseDups (files : List Text) (file : Text) :
    addNew files.eraseDups file = (files ++ [file]).eraseDups := by
  rw [List.eraseDups_append]
  by_cases h : file ∈ files <;> simp [addNew, List.removeAll, h, List.eraseDups_cons]

theorem foldl_addNew (files : List Text) : files.foldl addNew [] = files.eraseDups := by
  induction files using List.reverseRecOn with
  | nil => rfl
  | append_singleton files file ih =>
    rw [List.foldl_append, ih]
    exact addNew_eraseDups files file

theorem nodup_eraseDups (files : List Text) : files.eraseDups.Nodup := by
  induction files using List.reverseRecOn with
  | nil => simp
  | append_singleton files file ih =>
    rw [← addNew_eraseDups, addNew]
    split_ifs with hnew
    · exact ih
    · simpa using ih.concat (by simpa using hnew)

theorem collectFrom_eq (ds : Directories) (exclude : List Text) (directory : Text)
    (inputs : List Text) : collectFrom ds exclude directory inputs =
      (inputs.flatMap fun input => expand ds exclude (Path.resolve directory input)).eraseDups :=
  foldl_addNew _

theorem nodup_collectFrom (ds : Directories) (exclude : List Text) (directory : Text)
    (inputs : List Text) : (collectFrom ds exclude directory inputs).Nodup := by
  rw [collectFrom_eq]
  exact nodup_eraseDups _

theorem mem_expand_iff : file ∈ expand ds exclude path ↔
    if ds.isDirectory path then file ∈ ds.search script path (skipped ++ exclude)
    else file = path := by
  unfold expand
  split <;> simp [scripts]

theorem mem_collectFrom_iff : file ∈ collectFrom ds exclude directory inputs ↔
    ∃ input ∈ inputs, file ∈ expand ds exclude (Path.resolve directory input) := by
  rw [collectFrom_eq, List.mem_eraseDups, List.mem_flatMap]

theorem collectFrom_append (xs ys : List Text) :
    collectFrom ds exclude directory (xs ++ ys) = collectFrom ds exclude directory xs ++
      ((ys.flatMap fun input => expand ds exclude (Path.resolve directory input)).removeAll
        (xs.flatMap fun input => expand ds exclude (Path.resolve directory input))).eraseDups := by
  rw [collectFrom_eq, List.flatMap_append, List.eraseDups_append, ← collectFrom_eq]

/-- The files that are collected are those that the paths stand for, each once and where it first
comes up. -/
theorem collectFrom_union (ds : Directories) (exclude : List Text) (directory : Text)
    (xs ys : List Text) :
    (collectFrom ds exclude directory xs).Nodup ∧
      (∀ file, file ∈ collectFrom ds exclude directory xs ↔
        ∃ input ∈ xs, let path := Path.resolve directory input
          if ds.isDirectory path then file ∈ ds.search script path (skipped ++ exclude)
          else file = path) ∧
      collectFrom ds exclude directory xs <+: collectFrom ds exclude directory (xs ++ ys) ∧
      collectFrom ds exclude directory (xs ++ xs) = collectFrom ds exclude directory xs := by
  refine ⟨nodup_collectFrom ds exclude directory xs, fun file => ?_, ?_, ?_⟩
  · simp only [mem_collectFrom_iff, mem_expand_iff]
  · rw [collectFrom_append]
    exact List.prefix_append ..
  · have hnone (files : List Text) : files.removeAll files = [] := by simp [List.removeAll]
    rw [collectFrom_append, hnone, List.eraseDups_nil, List.append_nil]

end Inlay.Collect
