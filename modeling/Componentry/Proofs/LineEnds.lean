import Componentry.Text.Lines

/-!
# Line ends of texts

A text is read from a file with its line ends unified. It is read as it was written exactly if it
has no carriage return.
-/

namespace Componentry

namespace Text

/-- The text of which the line ends are unified. -/
def unified (text : String) : String :=
  String.ofList (unifyNewlines text.toList)

/-- There is no carriage return once line ends are unified. -/
theorem notMem_unifyNewlines (cs : List Char) : '\r' ∉ unifyNewlines cs := by
  fun_induction unifyNewlines cs with
  | case1 => simp
  | case2 rest ih => simpa using ih
  | case3 rest _ ih => simpa using ih
  | case4 c rest _ notReturn ih =>
    rw [List.mem_cons, not_or]
    exact ⟨fun same => notReturn same.symm, ih⟩

/-- Only a text without carriage returns has unified line ends. -/
theorem unifyNewlines_eq_self_iff {cs : List Char} : unifyNewlines cs = cs ↔ '\r' ∉ cs := by
  constructor
  · intro same
    rw [← same]
    exact notMem_unifyNewlines cs
  · intro free
    fun_induction unifyNewlines cs with
    | case1 => rfl
    | case2 rest => simp at free
    | case3 rest => simp at free
    | case4 c rest _ _ ih => rw [ih fun mem => free (List.mem_cons_of_mem c mem)]

/-- A text is left as it is if it has no carriage return. -/
theorem unified_eq_self_iff {text : String} : unified text = text ↔ '\r' ∉ text.toList := by
  rw [unified, ← unifyNewlines_eq_self_iff, ← String.toList_inj, String.toList_ofList]

/-- What is read from a file that a text was written to. -/
theorem ofFile?_toUTF8 (text : String) : ofFile? text.toUTF8 = some (unified text) := by
  rw [ofFile?, String.fromUTF8?, String.toUTF8, dif_pos text.isValidUTF8]
  rfl

/-- Different texts have different bytes. -/
theorem toUTF8_inj {a b : String} : a.toUTF8 = b.toUTF8 ↔ a = b :=
  String.toByteArray_inj

end Text

end Componentry
