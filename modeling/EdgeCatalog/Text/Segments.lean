/-! Texts cut at a separator. -/
namespace EdgeCatalog.Text

/-- The parts between the separators; `n` separators give `n + 1` parts, some of them empty. -/
def splitChars (sep : Char) : List Char → List (List Char)
  | [] => [[]]
  | c :: rest =>
    if c = sep then [] :: splitChars sep rest
    else match splitChars sep rest with
      | [] => [[c]]
      | part :: parts => (c :: part) :: parts

/-- The parts with one separator between neighbours. -/
def joinChars (sep : Char) : List (List Char) → List Char
  | [] => []
  | [part] => part
  | part :: parts => part ++ sep :: joinChars sep parts

def segments (sep : Char) (s : String) : List String :=
  (splitChars sep s.toList).map String.ofList

def joinSegments (sep : Char) (parts : List String) : String :=
  String.ofList (joinChars sep (parts.map String.toList))

theorem splitChars_ne_nil (sep : Char) (cs : List Char) : splitChars sep cs ≠ [] := by
  cases cs with
  | nil => simp [splitChars]
  | cons c rest =>
    simp only [splitChars]
    split
    · simp
    · split <;> simp

theorem joinChars_splitChars (sep : Char) (cs : List Char) :
    joinChars sep (splitChars sep cs) = cs := by
  induction cs with
  | nil => rfl
  | cons c rest ih =>
    have hne := splitChars_ne_nil sep rest
    by_cases hc : c = sep
    · subst hc
      cases hs : splitChars c rest with
      | nil => exact absurd hs hne
      | cons part parts =>
        rw [hs] at ih
        simp [splitChars, hs, joinChars, ih]
    · cases hs : splitChars sep rest with
      | nil => exact absurd hs hne
      | cons part parts =>
        rw [hs] at ih
        cases parts with
        | nil => simp_all [splitChars, joinChars]
        | cons next parts => simp_all [splitChars, joinChars]

/-- Joining at the separator gives back the text that was cut. -/
theorem joinSegments_segments (sep : Char) (s : String) :
    joinSegments sep (segments sep s) = s := by
  simp [joinSegments, segments, Function.comp_def, joinChars_splitChars]

end EdgeCatalog.Text
