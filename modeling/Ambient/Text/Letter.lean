namespace Ambient.Text

def lower (cs : List Char) : List Char := cs.map Char.toLower

def sameLetters (a b : List Char) : Bool := lower a == lower b

/-- A property that a table shows of each ASCII character. -/
theorem ascii_of_table {P : Char → Prop} (table : ∀ n : Fin 0x80, P (Char.ofNat n)) (c : Char)
    (ascii : c.toNat < 0x80) : P c := by
  have found := table ⟨c.toNat, ascii⟩
  rwa [Char.ofNat_toNat] at found

end Ambient.Text
