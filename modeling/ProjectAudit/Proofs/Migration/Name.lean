import Mathlib.Data.List.Basic
import ProjectAudit.Migration.Name

/-!
# Reading and writing the names of migration scripts

`MigrationName.ofFileName?` accepts exactly what `MigrationName.fileName` writes for a well-formed
name, so a script has one reading (`ofFileName?_eq_some_iff`).
-/

namespace ProjectAudit

namespace MigrationName

/-- what the parts of a name are made of -/
structure IsWellFormed (m : MigrationName) : Prop where
  /-- three decimal digits, in any script -/
  serial_length : m.serial.toList.length = 3
  serial_digits : ∀ c ∈ m.serial.toList, isDecimalDigit c = true
  description_ne_nil : m.description.toList ≠ []
  description_chars : ∀ c ∈ m.description.toList, isDescriptionChar c = true

/-- what follows the description -/
def ending (d : Direction) : List Char := '.' :: d.text.toList ++ ['.', 's', 'q', 'l']

theorem toList_stem (m : MigrationName) :
    m.stem.toList = m.serial.toList ++ '_' :: m.description.toList := by
  simp [stem]

theorem toList_fileName (m : MigrationName) :
    m.fileName.toList = m.serial.toList ++ '_' :: (m.description.toList ++ ending m.direction) := by
  simp [fileName, toList_stem, ending]

theorem isSuffix_fileName (m : MigrationName) : ".sql".toList <:+ m.fileName.toList := by
  rw [fileName, String.toList_append]
  exact List.suffix_append _ _

theorem readDirection?_eq_some_iff {cs : List Char} {d : Direction} :
    readDirection? cs = some d ↔ cs = ending d := by
  have hup : ".up.sql".toList = ending .up := rfl
  have hdown : ".down.sql".toList = ending .down := rfl
  unfold readDirection?
  rw [hup, hdown]
  constructor
  · intro h
    split at h
    · rename_i hc
      cases h
      exact hc
    · split at h
      · rename_i hc
        cases h
        exact hc
      · cases h
  · rintro rfl
    cases d <;> rfl

/-- the dot ends the description -/
theorem description_append_ending {cs : List Char} (h : ∀ c ∈ cs, isDescriptionChar c = true)
    (d : Direction) :
    (cs ++ ending d).takeWhile isDescriptionChar = cs ∧
      (cs ++ ending d).dropWhile isDescriptionChar = ending d := by
  have hdot : isDescriptionChar '.' = false := by decide
  constructor
  · rw [List.takeWhile_append_of_pos h, ending]
    simp [hdot]
  · rw [List.dropWhile_append_of_pos h, ending]
    simp [hdot]

theorem ofFileName?_fileName {m : MigrationName} (h : m.IsWellFormed) :
    ofFileName? m.fileName = some m := by
  obtain ⟨a, b, c, hs⟩ := List.length_eq_three.1 h.serial_length
  obtain ⟨ht, hd⟩ := description_append_ending h.description_chars m.direction
  have hdigits : [a, b, c].all isDecimalDigit = true := by
    rw [← hs, List.all_eq_true]
    exact h.serial_digits
  have hne : m.description.toList.isEmpty = false := by
    simpa using h.description_ne_nil
  have hdir : readDirection? (ending m.direction) = some m.direction :=
    readDirection?_eq_some_iff.2 rfl
  have hn : m.fileName.toList
      = a :: b :: c :: '_' :: (m.description.toList ++ ending m.direction) := by
    rw [toList_fileName, hs]
    rfl
  have hserial : String.ofList [a, b, c] = m.serial := by rw [← hs, String.ofList_toList]
  unfold ofFileName?
  rw [hn]
  simp only [ht, hd, hdigits, hne, hdir, hserial, Bool.not_false, Bool.and_self, if_true,
    Option.map_some, String.ofList_toList]

theorem eq_fileName_of_ofFileName? {n : String} {m : MigrationName} (h : ofFileName? n = some m) :
    m.IsWellFormed ∧ m.fileName = n := by
  unfold ofFileName? at h
  split at h
  · rename_i a b c rest hn
    dsimp only at h
    split at h
    · rename_i hc
      obtain ⟨hdigits, hne⟩ := Bool.and_eq_true_iff.1 hc
      obtain ⟨d, hd, rfl⟩ := Option.map_eq_some_iff.1 h
      have he := readDirection?_eq_some_iff.1 hd
      refine ⟨⟨by simp, by simpa using hdigits, by simpa using hne, fun c hc => ?_⟩, ?_⟩
      · rw [String.toList_ofList] at hc
        exact List.all_eq_true.1 List.all_takeWhile c hc
      · apply String.toList_inj.1
        rw [toList_fileName, hn]
        simp only [String.toList_ofList, ← he, List.takeWhile_append_dropWhile, List.cons_append,
          List.nil_append]
    · cases h
  · cases h

/-- reading accepts exactly what is written for a well-formed name -/
theorem ofFileName?_eq_some_iff {n : String} {m : MigrationName} :
    ofFileName? n = some m ↔ m.IsWellFormed ∧ m.fileName = n := by
  constructor
  · exact eq_fileName_of_ofFileName?
  · rintro ⟨h, rfl⟩
    exact ofFileName?_fileName h

end MigrationName

/-- the name of a migration script: `NNN_description.up.sql` or `NNN_description.down.sql` -/
def FollowsConvention (n : String) : Prop := ∃ m : MigrationName, m.IsWellFormed ∧ m.fileName = n

theorem followsConvention_iff {n : String} :
    FollowsConvention n ↔ (MigrationName.ofFileName? n).isSome = true := by
  rw [Option.isSome_iff_exists]
  exact exists_congr fun m => MigrationName.ofFileName?_eq_some_iff.symm

end ProjectAudit
