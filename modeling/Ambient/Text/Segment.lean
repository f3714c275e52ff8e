namespace Ambient.Text

/-- The pieces between the occurrences of `sep`, one more than there are occurrences. -/
def split (sep : Char) : List Char → List (List Char)
  | [] => [[]]
  | c :: cs => if c = sep then [] :: split sep cs else (split sep cs).modifyHead (c :: ·)

def join (sep : Char) (pieces : List (List Char)) : List Char := [sep].intercalate pieces

/-- What stands before and after the first `mark`. -/
def cut (mark : Char) : List Char → Option (List Char × List Char)
  | [] => none
  | c :: cs => if c = mark then some ([], cs) else (cut mark cs).map fun (a, b) => (c :: a, b)

theorem split_ne_nil (sep : Char) (cs : List Char) : split sep cs ≠ [] := by
  induction cs with
  | nil => simp [split]
  | cons c cs ih =>
    unfold split
    split
    · simp
    · simpa [List.modifyHead_eq_nil_iff] using ih

theorem mem_of_mem_split {sep x : Char} {cs piece : List Char} (h : piece ∈ split sep cs)
    (hx : x ∈ piece) : x ∈ cs := by
  induction cs generalizing piece with
  | nil =>
    rw [split, List.mem_singleton] at h
    rw [h] at hx
    exact hx
  | cons c cs ih =>
    rw [split] at h
    split at h
    next =>
      rcases List.mem_cons.1 h with rfl | later
      · cases hx
      · exact List.mem_cons_of_mem c (ih later hx)
    next =>
      cases hs : split sep cs with
      | nil => exact absurd hs (split_ne_nil sep cs)
      | cons p ps =>
        rw [hs] at h ih
        rcases List.mem_cons.1 h with rfl | later
        · rcases List.mem_cons.1 hx with rfl | inside
          · exact List.mem_cons_self
          · exact List.mem_cons_of_mem c (ih List.mem_cons_self inside)
        · exact List.mem_cons_of_mem c (ih (List.mem_cons_of_mem p later) hx)

theorem exists_mem_split {sep x : Char} {cs : List Char} (hx : x ∈ cs) (other : x ≠ sep) :
    ∃ piece ∈ split sep cs, x ∈ piece := by
  induction cs with
  | nil => cases hx
  | cons c cs ih =>
    rw [split]
    split
    next same =>
      have later : x ∈ cs := (List.mem_cons.1 hx).resolve_left (same ▸ other)
      obtain ⟨piece, hp, inside⟩ := ih later
      exact ⟨piece, List.mem_cons_of_mem _ hp, inside⟩
    next =>
      cases hs : split sep cs with
      | nil => exact absurd hs (split_ne_nil sep cs)
      | cons p ps =>
        rw [hs] at ih
        rcases List.mem_cons.1 hx with rfl | later
        · exact ⟨x :: p, List.mem_cons_self, List.mem_cons_self⟩
        · obtain ⟨piece, hp, inside⟩ := ih later
          rcases List.mem_cons.1 hp with rfl | below
          · exact ⟨c :: piece, List.mem_cons_self, List.mem_cons_of_mem c inside⟩
          · exact ⟨piece, List.mem_cons_of_mem _ below, inside⟩

theorem not_mem_of_mem_split {sep : Char} {cs piece : List Char} (h : piece ∈ split sep cs) :
    sep ∉ piece := by
  induction cs generalizing piece with
  | nil =>
    rw [split, List.mem_singleton] at h
    rw [h]
    exact List.not_mem_nil
  | cons c cs ih =>
    rw [split] at h
    split at h
    next =>
      rcases List.mem_cons.1 h with rfl | later
      · exact List.not_mem_nil
      · exact ih later
    next differ =>
      cases hs : split sep cs with
      | nil => exact absurd hs (split_ne_nil sep cs)
      | cons p ps =>
        rw [hs] at h ih
        rcases List.mem_cons.1 h with rfl | later
        · rw [List.mem_cons, not_or]
          exact ⟨Ne.symm differ, ih List.mem_cons_self⟩
        · exact ih (List.mem_cons_of_mem p later)

theorem split_of_not_mem {sep : Char} {cs : List Char} (h : sep ∉ cs) : split sep cs = [cs] := by
  induction cs with
  | nil => rfl
  | cons c cs ih =>
    simp only [List.mem_cons, not_or] at h
    simp [split, Ne.symm h.1, ih h.2]

theorem split_append {sep : Char} {a : List Char} (h : sep ∉ a) (b : List Char) :
    split sep (a ++ sep :: b) = a :: split sep b := by
  induction a with
  | nil => simp [split]
  | cons c a ih =>
    simp only [List.mem_cons, not_or] at h
    simp [split, Ne.symm h.1, ih h.2]

theorem join_cons_cons (sep : Char) (p q : List Char) (ps : List (List Char)) :
    join sep (p :: q :: ps) = p ++ sep :: join sep (q :: ps) := by
  simp [join, List.intercalate_cons_cons]

theorem join_cons (sep : Char) (p : List Char) (ps : List (List Char)) :
    join sep (p :: ps) = p ++ ps.flatMap (sep :: ·) := by
  induction ps generalizing p with
  | nil => simp [join]
  | cons q qs ih =>
    rw [join_cons_cons, ih, List.flatMap_cons]
    rfl

theorem split_join {sep : Char} {pieces : List (List Char)} (some_piece : pieces ≠ [])
    (h : ∀ p ∈ pieces, sep ∉ p) : split sep (join sep pieces) = pieces := by
  induction pieces with
  | nil => exact absurd rfl some_piece
  | cons p ps ih =>
    have hp := h p (by simp)
    cases ps with
    | nil => simpa [join] using split_of_not_mem hp
    | cons q qs =>
      rw [join_cons_cons, split_append hp, ih (by simp) fun r hr => h r (List.mem_cons_of_mem p hr)]

theorem cut_append {mark : Char} {a : List Char} (h : mark ∉ a) (b : List Char) :
    cut mark (a ++ mark :: b) = some (a, b) := by
  induction a with
  | nil => simp [cut]
  | cons c a ih =>
    simp only [List.mem_cons, not_or] at h
    simp [cut, Ne.symm h.1, ih h.2]

theorem cut_eq_none_iff {mark : Char} {cs : List Char} : cut mark cs = none ↔ mark ∉ cs := by
  induction cs with
  | nil => simp [cut]
  | cons c cs ih =>
    by_cases hc : c = mark
    · simp [cut, hc]
    · simp [cut, hc, ih, Ne.symm hc]

end Ambient.Text
