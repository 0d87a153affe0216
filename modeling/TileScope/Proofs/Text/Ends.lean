import Mathlib
import TileScope.Text.Ends

/-!
# Texts without the slashes at their end

Only slashes are taken away (`exists_dropSlashes`), and all of them (`getLast?_dropSlashes`).
-/

namespace TileScope.Text

/-- What is left is the text but for slashes behind. -/
theorem exists_dropSlashes (cs : List Char) :
    ∃ n, cs = dropSlashes cs ++ List.replicate n '/' := by
  refine ⟨(cs.reverse.takeWhile (· = '/')).length, ?_⟩
  have hslashes : List.replicate (cs.reverse.takeWhile (· = '/')).length '/'
      = (cs.reverse.takeWhile (· = '/')).reverse := by
    rw [eq_comm, List.eq_replicate_iff]
    refine ⟨List.length_reverse, fun c hc => ?_⟩
    simpa using List.mem_takeWhile_imp (List.mem_reverse.1 hc)
  rw [hslashes, dropSlashes, ← List.reverse_append, List.takeWhile_append_dropWhile,
    List.reverse_reverse]

/-- No slash is left at the end. -/
theorem getLast?_dropSlashes (cs : List Char) : (dropSlashes cs).getLast? ≠ some '/' := by
  intro h
  rw [dropSlashes, List.getLast?_reverse] at h
  have := List.head?_dropWhile_not (· = '/') cs.reverse
  rw [h] at this
  simp at this

/-- Without a slash at the end nothing is dropped. -/
theorem dropSlashes_of_getLast? {cs : List Char} (h : cs.getLast? ≠ some '/') :
    dropSlashes cs = cs := by
  rw [dropSlashes, List.reverse_eq_iff]
  rw [← List.head?_reverse] at h
  cases hr : cs.reverse with
  | nil => rfl
  | cons c rest =>
    rw [hr, List.head?_cons] at h
    exact List.dropWhile_cons_of_neg (by simpa using h)

/-- Slashes behind a text are taken away as far as they go. -/
theorem dropSlashes_append (cs more : List Char) : dropSlashes (cs ++ more)
    = if dropSlashes more = [] then dropSlashes cs else cs ++ dropSlashes more := by
  simp only [dropSlashes, List.reverse_append, List.dropWhile_append, List.isEmpty_iff,
    List.reverse_eq_nil_iff]
  split
  · rfl
  · rw [List.reverse_append, List.reverse_reverse]

/-- Any number of slashes at the end are dropped. -/
theorem dropSlashes_append_replicate (cs : List Char) (n : Nat) :
    dropSlashes (cs ++ List.replicate n '/') = dropSlashes cs := by
  have hslashes : dropSlashes (List.replicate n '/') = [] := by simp [dropSlashes]
  rw [dropSlashes_append, if_pos hslashes]

/-! ## As texts -/

variable (s : String)

/-- The characters of the text without its last slashes. -/
theorem toList_dropSlashesEnd : (dropSlashesEnd s).toList = dropSlashes s.toList :=
  String.toList_ofList

/-- What is left does not end with a slash. -/
theorem getLast?_dropSlashesEnd : (dropSlashesEnd s).toList.getLast? ≠ some '/' := by
  rw [toList_dropSlashesEnd]
  exact getLast?_dropSlashes _

/-- The text is what is left of it and slashes. -/
theorem exists_dropSlashesEnd :
    ∃ n, s = dropSlashesEnd s ++ String.ofList (List.replicate n '/') := by
  obtain ⟨n, hn⟩ := exists_dropSlashes s.toList
  refine ⟨n, ?_⟩
  rw [← String.toList_inj, String.toList_append, toList_dropSlashesEnd, String.toList_ofList]
  exact hn

/-- **Slashes at the end make no difference**, however many there are. -/
theorem dropSlashesEnd_append_slashes (n : Nat) :
    dropSlashesEnd (s ++ String.ofList (List.replicate n '/')) = dropSlashesEnd s := by
  rw [dropSlashesEnd, String.toList_append, String.toList_ofList, dropSlashes_append_replicate,
    dropSlashesEnd]

/-- From what is left nothing more is taken away. -/
theorem dropSlashesEnd_dropSlashesEnd : dropSlashesEnd (dropSlashesEnd s) = dropSlashesEnd s := by
  rw [dropSlashesEnd, toList_dropSlashesEnd, dropSlashes_of_getLast? (getLast?_dropSlashes _),
    dropSlashesEnd]

end TileScope.Text
