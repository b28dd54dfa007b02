import WebApplication.Proofs.SortedTable
import WebApplication.Storage.Files

/-!
# Reading what was written

What is written under a path is read under every path that led to the same place, and what is
removed is read no more. A new file can bring new folders, and then more paths lead somewhere, but
none leads elsewhere.
-/

set_option autoImplicit false

namespace WebApplication.Storage.Files

variable {files later : Files} {path other key : String}

/-! ## Folders that stay -/

structure Grown (files later : Files) : Prop where
  directory : later.directory = files.directory
  folders : ∀ folder, files.isFolder folder = true → later.isFolder folder = true

theorem Grown.resolve (h : files.Grown later) {folder parts found : List String}
    (hfound : files.resolve folder parts = some found) :
    later.resolve folder parts = some found := by
  induction parts generalizing folder with
  | nil => exact hfound
  | cons part parts ih =>
    rw [Files.resolve] at hfound ⊢
    by_cases hskip : (part = "" || part = ".") = true
    · rw [if_pos hskip] at hfound ⊢
      exact ih hfound
    · rw [if_neg hskip] at hfound ⊢
      by_cases hup : part = ".."
      · rw [if_pos hup] at hfound ⊢
        by_cases hfolder : files.isFolder folder.reverse = true
        · rw [if_pos hfolder] at hfound
          rw [if_pos (h.folders _ hfolder)]
          exact ih hfound
        · rw [if_neg hfolder] at hfound
          cases hfound
      · rw [if_neg hup] at hfound ⊢
        exact ih hfound

theorem Grown.key? (h : files.Grown later) (hkey : files.key? path = some key) :
    later.key? path = some key := by
  rw [Files.key?] at hkey ⊢
  rw [h.directory]
  split at hkey
  · cases hkey
  · rename_i hnamed
    obtain ⟨found, hfound, rfl⟩ := Option.map_eq_some_iff.mp hkey
    rw [if_neg hnamed, h.resolve hfound]
    rfl

/-! ## One file -/

section Put

variable (files key) (content : Option String)

theorem content?_put :
    (files.put key content).content? other =
      if other = key then content else files.content? other := by
  rw [content?, put, SortedTable.lookup_insert, content?]
  split <;> rfl

theorem grown_put : files.Grown (files.put key content) where
  directory := rfl
  folders folder h := by
    rw [isFolder, Bool.or_eq_true] at h ⊢
    refine h.imp_right fun habove => ?_
    rw [List.any_eq_true] at habove ⊢
    obtain ⟨entry, he, habove⟩ := habove
    have hkept : (files.put key content).entries.lookup entry.1 ≠ none := by
      rw [put, SortedTable.lookup_insert]
      split
      · simp
      · exact fun hnone => SortedTable.lookup_eq_none_iff.mp hnone entry he rfl
    obtain ⟨kept, hmem, hname⟩ :
        ∃ kept ∈ (files.put key content).entries, kept.1 = entry.1 := by
      by_contra hnone
      exact hkept (SortedTable.lookup_eq_none_iff.mpr fun kept hmem hname =>
        hnone ⟨kept, hmem, hname⟩)
    exact ⟨kept, hmem, by rwa [hname]⟩

variable {files key content}

theorem read?_put (hkey : files.key? path = some key) :
    (files.put key content).read? path = content := by
  have hlater := (grown_put files key content).key? hkey
  rw [read?, hlater]
  exact (content?_put files key content).trans (if_pos rfl)

end Put

/-! ## Writing and removing -/

theorem read?_write (hkey : files.key? path = some key) (hroom : files.hasRoom key = true)
    (hother : files.key? other = some key) (content : String) :
    (files.write path content).read? other = some content := by
  rw [write, hkey]
  dsimp only
  rw [if_pos hroom, read?_put hother]

theorem read?_remove (files : Files) (path : String) : (files.remove path).read? path = none := by
  rw [remove]
  cases hkey : files.key? path with
  | none => rw [read?, hkey]; rfl
  | some key =>
    dsimp only
    by_cases hheld : (files.content? key).isSome = true
    · rw [if_pos hheld, read?_put hkey]
    · rw [if_neg hheld, read?, hkey]
      simpa using hheld

end WebApplication.Storage.Files
