namespace TypedMarkup.Text

def bytes (s : String) : List UInt8 :=
  s.toUTF8.data.toList

theorem bytes_inj {s t : String} : bytes s = bytes t ↔ s = t := by
  refine ⟨fun h => ?_, fun h => h ▸ rfl⟩
  exact String.toByteArray_inj.1 (ByteArray.ext (Array.toList_inj.1 h))

def le (s t : String) : Bool :=
  decide (bytes s ≤ bytes t)

theorem le_total (s t : String) : (le s t || le t s) = true := by
  simpa [le] using List.le_total (bytes s) (bytes t)

theorem le_trans {s t u : String} (h : le s t = true) (k : le t u = true) : le s u = true := by
  simp only [le, decide_eq_true_eq] at *
  exact List.le_trans h k

theorem le_antisymm {s t : String} (h : le s t = true) (k : le t s = true) : s = t := by
  simp only [le, decide_eq_true_eq] at *
  exact bytes_inj.1 (List.le_antisymm h k)

end TypedMarkup.Text
