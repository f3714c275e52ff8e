namespace Ambient.Text

/-- The characters with Unicode's White_Space property. -/
def isBlank (c : Char) : Bool :=
  let n := c.toNat
  (9 ≤ n && n ≤ 13) || n == 0x20 || n == 0x85 || n == 0xA0 || n == 0x1680 ||
    (0x2000 ≤ n && n ≤ 0x200A) || n == 0x2028 || n == 0x2029 || n == 0x202F ||
    n == 0x205F || n == 0x3000

theorem not_blank_of_visible {c : Char} (above : 0x20 < c.toNat) (below : c.toNat < 0x7F) :
    isBlank c = false := by
  simp only [isBlank, Bool.or_eq_false_iff, Bool.and_eq_false_iff, decide_eq_false_iff_not,
    beq_eq_false_iff_ne]
  omega

def isBlankText (cs : List Char) : Bool := cs.all isBlank

def trimLeft (cs : List Char) : List Char := cs.dropWhile isBlank

def trimRight (cs : List Char) : List Char := (cs.reverse.dropWhile isBlank).reverse

/-- Strips the blanks at both ends and keeps those between other characters. -/
def trim (cs : List Char) : List Char := trimRight (trimLeft cs)

theorem trimLeft_cons_of_not_blank {c : Char} (h : isBlank c = false) (cs : List Char) :
    trimLeft (c :: cs) = c :: cs := by
  simp [trimLeft, h]

@[simp] theorem trim_nil : trim [] = [] := rfl

theorem trim_of_forall_not_blank {cs : List Char} (h : ∀ c ∈ cs, isBlank c = false) :
    trim cs = cs := by
  have stays : ∀ ds : List Char, (∀ c ∈ ds, isBlank c = false) → ds.dropWhile isBlank = ds := by
    intro ds hds
    cases ds with
    | nil => rfl
    | cons d ds => simp [hds d (by simp)]
  rw [trim, trimLeft, stays cs h, trimRight, stays cs.reverse (by simpa using h),
    List.reverse_reverse]

theorem isBlankText_append {a b : List Char} (ha : isBlankText a) (hb : isBlankText b) :
    isBlankText (a ++ b) := by
  rw [isBlankText, List.all_append]
  exact Bool.and_eq_true_iff.2 ⟨ha, hb⟩

theorem not_mem_of_isBlankText {c : Char} {cs : List Char} (h : isBlankText cs)
    (seen : isBlank c = false) : c ∉ cs := by
  intro hc
  have blank : isBlank c = true := List.all_eq_true.1 h c hc
  exact Bool.false_ne_true (seen.symm.trans blank)

theorem trimLeft_append_of_blank {a : List Char} (h : isBlankText a) (cs : List Char) :
    trimLeft (a ++ cs) = trimLeft cs :=
  List.dropWhile_append_of_pos (List.all_eq_true.1 h)

theorem trimRight_append_of_blank {b : List Char} (h : isBlankText b) (cs : List Char) :
    trimRight (cs ++ b) = trimRight cs := by
  rw [trimRight, List.reverse_append,
    List.dropWhile_append_of_pos (List.all_eq_true.1 (List.all_reverse.trans h))]
  rfl

theorem trimLeft_of_blank {cs : List Char} (h : isBlankText cs) : trimLeft cs = [] := by
  have padded := trimLeft_append_of_blank h []
  rw [List.append_nil] at padded
  exact padded

theorem trim_of_blank {cs : List Char} (h : isBlankText cs) : trim cs = [] := by
  rw [trim, trimLeft_of_blank h]
  rfl

theorem trimLeft_append_cons {c : Char} (h : isBlank c = false) (l r : List Char) :
    trimLeft (l ++ c :: r) = trimLeft l ++ c :: r := by
  have stays : trimLeft (c :: r) = c :: r := trimLeft_cons_of_not_blank h r
  rw [trimLeft, List.dropWhile_append]
  split
  next none_left =>
    rw [trimLeft, List.isEmpty_iff.1 none_left]
    exact stays
  next => rfl

theorem trimRight_append_cons {c : Char} (h : isBlank c = false) (l r : List Char) :
    trimRight (l ++ c :: r) = l ++ c :: trimRight r := by
  have turned : (l ++ c :: r).reverse = r.reverse ++ c :: l.reverse := by simp
  have stays := trimLeft_append_cons h r.reverse l.reverse
  rw [trimLeft] at stays
  rw [trimRight, turned, stays, List.reverse_append, List.reverse_cons, List.reverse_reverse,
    List.append_assoc]
  rfl

/-- A text is what is left of it between two stretches of blanks. -/
theorem exists_padding (cs : List Char) :
    ∃ a b, isBlankText a ∧ isBlankText b ∧ cs = a ++ trim cs ++ b := by
  have left : cs = cs.takeWhile isBlank ++ trimLeft cs := List.takeWhile_append_dropWhile.symm
  have right : trimLeft cs = trim cs ++ ((trimLeft cs).reverse.takeWhile isBlank).reverse := by
    rw [trim, trimRight, ← List.reverse_append, List.takeWhile_append_dropWhile,
      List.reverse_reverse]
  have blank : isBlankText ((trimLeft cs).reverse.takeWhile isBlank).reverse :=
    List.all_reverse.trans List.all_takeWhile
  refine ⟨cs.takeWhile isBlank, _, List.all_takeWhile, blank, ?_⟩
  rw [List.append_assoc, ← right]
  exact left

theorem mem_of_mem_trim {c : Char} {cs : List Char} (h : c ∈ trim cs) : c ∈ cs := by
  obtain ⟨a, b, -, -, split⟩ := exists_padding cs
  rw [split]
  exact List.mem_append_left b (List.mem_append_right a h)

theorem trim_padded {a b : List Char} (ha : isBlankText a) (hb : isBlankText b)
    (cs : List Char) : trim (a ++ cs ++ b) = trim cs := by
  rw [List.append_assoc, trim, trimLeft_append_of_blank ha, trimLeft, List.dropWhile_append]
  split
  next nothing =>
    have left : trimLeft cs = [] := List.isEmpty_iff.1 nothing
    have right : b.dropWhile isBlank = [] := trimLeft_of_blank hb
    rw [right, trim, left]
  next => exact trimRight_append_of_blank hb _

theorem trim_eq_nil_iff {cs : List Char} : trim cs = [] ↔ isBlankText cs := by
  constructor
  · intro nothing
    obtain ⟨a, b, ha, hb, split⟩ := exists_padding cs
    rw [split, nothing, List.append_nil]
    exact isBlankText_append ha hb
  · exact trim_of_blank

end Ambient.Text
