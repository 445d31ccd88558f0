import ProjectAudit.Proofs.Migration.Added

/-!
# The parts of a script name

A script name is cut into its serial, its description and its direction in one way at most, because
the serial has a fixed length and the dot cannot stand in a description.  So reading a name and
putting one together from its parts undo each other (`ofFileName?_parts`), the name of a script is
among the two that its stem is paired with, and the stem and the direction tell all names apart.
-/

namespace ProjectAudit

namespace MigrationName
open Migration

/-- the name is put together from a serial, a description and a direction -/
structure HasParts (n serial description : String) (direction : Direction) : Prop where
  eq_append : n = serial ++ "_" ++ description ++ "." ++ direction.text ++ ".sql"
  /-- digits of any script -/
  serial_digits : ∀ c ∈ serial.toList, isDecimalDigit c = true
  serial_length : serial.length = 3
  description_chars :
    ∀ c ∈ description.toList, ('a' ≤ c ∧ c ≤ 'z') ∨ ('0' ≤ c ∧ c ≤ '9') ∨ c = '_'
  description_ne_empty : description ≠ ""

theorem isDescriptionChar_iff {c : Char} :
    isDescriptionChar c = true ↔ ('a' ≤ c ∧ c ≤ 'z') ∨ ('0' ≤ c ∧ c ≤ '9') ∨ c = '_' := by
  have hlower : c.isLower = true ↔ 'a' ≤ c ∧ c ≤ 'z' :=
    Bool.and_eq_true_iff.trans (and_congr decide_eq_true_iff decide_eq_true_iff)
  have hdigit : c.isDigit = true ↔ '0' ≤ c ∧ c ≤ '9' :=
    Bool.and_eq_true_iff.trans (and_congr decide_eq_true_iff decide_eq_true_iff)
  rw [isDescriptionChar, Bool.or_eq_true, Bool.or_eq_true, hlower, hdigit, decide_eq_true_eq,
    or_assoc]

variable {n : String} {m : MigrationName}

theorem hasParts_iff : HasParts n m.serial m.description m.direction ↔
    m.IsWellFormed ∧ m.fileName = n := by
  have hne : m.description.toList ≠ [] ↔ m.description ≠ "" := not_congr String.toList_eq_nil_iff
  constructor
  · intro h
    refine ⟨⟨?_, h.serial_digits, hne.2 h.description_ne_empty, fun c hc => ?_⟩, h.eq_append.symm⟩
    · rw [String.length_toList]
      exact h.serial_length
    · exact isDescriptionChar_iff.2 (h.description_chars c hc)
  · rintro ⟨h, hn⟩
    refine ⟨hn.symm, h.serial_digits, ?_, fun c hc => ?_, hne.1 h.description_ne_nil⟩
    · rw [← String.length_toList]
      exact h.serial_length
    · exact isDescriptionChar_iff.1 (h.description_chars c hc)

theorem ofFileName?_eq_some_iff_hasParts :
    ofFileName? n = some m ↔ HasParts n m.serial m.description m.direction :=
  ofFileName?_eq_some_iff.trans hasParts_iff.symm

/-- the rules for the migration of a script are on the script itself -/
theorem file_mem_pairRules (h : ofFileName? n = some m) (p : Project) :
    p.file (pathOf n) ∈ pairRules p m.stem := by
  obtain ⟨-, rfl⟩ := ofFileName?_eq_some_iff.1 h
  rcases fileName_cases m with he | he
  · rw [he]
    exact List.mem_cons_self
  · rw [he]
    exact List.mem_cons_of_mem _ List.mem_cons_self

/-- **Script names are read and put together in one way.**  A name is read as these parts exactly if
it is put together from them, and no other parts make the same name.  A name that is read is its
stem with its direction, and so it is one of the two that discovery pairs; both of them are read,
with the same stem; and two names that are read differ in the stem or in the direction. -/
theorem ofFileName?_parts (n : String) :
    (∀ serial description direction,
      ofFileName? n = some ⟨serial, description, direction⟩ ↔
        HasParts n serial description direction) ∧
    (∀ serial description direction serial' description' direction',
      HasParts n serial description direction → HasParts n serial' description' direction' →
        serial = serial' ∧ description = description' ∧ direction = direction') ∧
    ∀ m, ofFileName? n = some m →
      n = m.stem ++ "." ++ m.direction.text ++ ".sql" ∧
        (∀ p : Project, p.file (pathOf n) ∈ pairRules p m.stem) ∧
        ofFileName? (m.stem ++ ".up.sql") = some ⟨m.serial, m.description, .up⟩ ∧
        ofFileName? (m.stem ++ ".down.sql") = some ⟨m.serial, m.description, .down⟩ ∧
        ∀ n' m', ofFileName? n' = some m' → n' ≠ n →
          (m'.stem, m'.direction) ≠ (m.stem, m.direction) := by
  have hparts : ∀ serial description direction,
      ofFileName? n = some ⟨serial, description, direction⟩ ↔
        HasParts n serial description direction :=
    fun _ _ _ => ofFileName?_eq_some_iff_hasParts
  refine ⟨hparts, ?_, fun m hm => ?_⟩
  · intro serial description direction serial' description' direction' h h'
    have hread := (hparts _ _ _).2 h
    rw [(hparts _ _ _).2 h', Option.some.injEq, mk.injEq] at hread
    obtain ⟨hserial, hdescription, hdirection⟩ := hread
    exact ⟨hserial.symm, hdescription.symm, hdirection.symm⟩
  · obtain ⟨hwell, hname⟩ := ofFileName?_eq_some_iff.1 hm
    refine ⟨hname.symm, file_mem_pairRules hm, ?_, ?_, fun n' m' hm' hne hsame => hne ?_⟩
    · rw [← fileName_up]
      exact ofFileName?_fileName (hwell.withDirection .up)
    · rw [← fileName_down]
      exact ofFileName?_fileName (hwell.withDirection .down)
    · obtain ⟨hstem, hdirection⟩ := Prod.mk.inj hsame
      obtain ⟨-, hname'⟩ := ofFileName?_eq_some_iff.1 hm'
      rw [← hname, ← hname', fileName, fileName, hstem, hdirection]

/-- the digits of the serial are not those of ASCII, and the description begins like a serial and
ends like a direction -/
theorem ofFileName?_of_indic_digits :
    HasParts "٠٠٤_004_up.down.sql" "٠٠٤" "004_up" .down ∧
      ofFileName? "٠٠٤_004_up.up.sql" = some ⟨"٠٠٤", "004_up", .up⟩ ∧
      ("٠٠٤_004_up", Direction.up) ≠ ("٠٠٤_004_up", Direction.down) := by
  have hread : ofFileName? "٠٠٤_004_up.down.sql" = some ⟨"٠٠٤", "004_up", .down⟩ := by
    decide +kernel
  obtain ⟨hparts, -, hnames⟩ := ofFileName?_parts "٠٠٤_004_up.down.sql"
  obtain ⟨-, -, hup, -, hdistinct⟩ := hnames _ hread
  exact ⟨(hparts _ _ _).1 hread, hup, hdistinct _ _ hup (by decide)⟩

end MigrationName

end ProjectAudit
