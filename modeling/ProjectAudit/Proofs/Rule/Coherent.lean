import ProjectAudit.Document.Readme
import ProjectAudit.Proofs.Rule.Kept
import ProjectAudit.Proofs.Rule.Modes
import ProjectAudit.Proofs.Text.Blanks

/-!
# Rules on one target

Rules on the same target do not pull apart.  A rule on the text passes only where a file is, and a
rule that looks for anything in the text passes only where the text is more than blanks
(`Rule.coherent_of_passed`).
-/

namespace ProjectAudit
open Text

/-! ## what is found in blanks -/

theorem Pattern.occursIn_eq_false {p : Pattern} {cs : List Char} (hp : p.isBlank = false)
    (h : isAllBlank cs = true) : p.occursIn cs = false := by
  obtain ⟨text, message, mode⟩ := p
  cases mode with
  | normalized => exact occursNormalized_eq_false hp h
  | ignoreCase => exact occursIgnoringCase_eq_false hp h
  | literal => exact Text.occursIn_eq_false hp h

/-- a blank pattern is a fault, and any other is not found -/
theorem Pattern.test_ne_ok_true {p : Pattern} {text : String}
    (h : isAllBlank text.toList = true) : p.test text ≠ .ok true := by
  intro ht
  obtain ⟨hp, ho⟩ := Pattern.test_eq_ok_true_iff.1 ht
  rw [occursIn_eq_false hp h] at ho
  cases ho

theorem hasAny_eq_false {needles : List String} {cs : List Char}
    (hn : needles.all (fun n => !isAllBlank n.toList) = true) (h : isAllBlank cs = true) :
    hasAny needles cs = false := by
  refine List.any_eq_false.2 fun n hmem => ?_
  have hb := List.all_eq_true.1 hn n hmem
  rw [Bool.not_eq_true'] at hb
  rw [occursIn_eq_false hb h]
  exact Bool.false_ne_true

theorem hasAll_eq_false {needles : List String} {cs : List Char}
    (hn : needles.any (fun n => !isAllBlank n.toList) = true) (h : isAllBlank cs = true) :
    hasAll needles cs = false := by
  obtain ⟨n, hmem, hb⟩ := List.any_eq_true.1 hn
  rw [Bool.not_eq_true'] at hb
  exact List.all_eq_false.2 ⟨n, hmem, by rw [occursIn_eq_false hb h]; exact Bool.false_ne_true⟩

namespace Condition

/-- whether it takes more than blanks to meet the condition -/
def needsText : Condition → Bool
  | .headingWithin _ | .proseAfterTitle _ => true
  | .hasAny needles | .mentionsAny needles => needles.all fun n => !isAllBlank n.toList
  | .hasAll needles | .mentionsAll needles | .shoutsAll needles =>
    needles.any fun n => !isAllBlank n.toList
  | .occurs marker times => 0 < times && !isAllBlank marker.toList
  | .both a b => a.needsText || b.needsText
  | .either a b => a.needsText && b.needsText

theorem holds_eq_false {condition : Condition} {cs : List Char}
    (hc : condition.needsText = true) (h : isAllBlank cs = true) : condition.holds cs = false := by
  have hlower : isAllBlank (lower cs) = true := (isAllBlank_lower cs).trans h
  induction condition with
  | headingWithin window => exact headingWithin_eq_false h window
  | proseAfterTitle length => exact proseAfterTitle_eq_false h length
  | hasAny needles => exact hasAny_eq_false hc h
  | hasAll needles => exact hasAll_eq_false hc h
  | mentionsAny needles => exact hasAny_eq_false hc hlower
  | mentionsAll needles => exact hasAll_eq_false hc hlower
  | shoutsAll needles =>
    show Text.hasAll needles (upper cs) = false
    rw [upper_of_isAllBlank h]
    exact hasAll_eq_false hc h
  | occurs marker times =>
    obtain ⟨htimes, hm⟩ := Bool.and_eq_true_iff.1 hc
    rw [Bool.not_eq_true'] at hm
    show decide (times ≤ occurrences marker.toList cs) = false
    rw [occurrences_eq_zero hm h]
    exact decide_eq_false (Nat.not_le.2 (of_decide_eq_true htimes))
  | both a b iha ihb =>
    show (a.holds cs && b.holds cs) = false
    rcases Bool.or_eq_true_iff.1 hc with ha | hb
    · rw [iha ha, Bool.false_and]
    · rw [ihb hb, Bool.and_false]
  | either a b iha ihb =>
    obtain ⟨ha, hb⟩ := Bool.and_eq_true_iff.1 hc
    show (a.holds cs || b.holds cs) = false
    rw [iha ha, ihb hb, Bool.or_false]

end Condition

theorem Readme.needsText_predicates :
    ∀ q ∈ Readme.predicates, q.condition.needsText = true := by
  have h : Readme.predicates.all (·.condition.needsText) = true := by decide +kernel
  exact List.all_eq_true.1 h

/-! ## what is where a text is -/

/-- what can be read is there and is no directory -/
def Disk.ReadsFiles (disk : Disk) : Prop :=
  ∀ {path text}, disk.read path = .ok text → ∃ kind, disk.stat path = .ok kind ∧ kind ≠ .directory

theorem Tree.readsFiles_disk (t : Tree) (cwd : Place) : (t.disk cwd).ReadsFiles := by
  intro path text h
  change t.resolve cwd path >>= Found.text = .ok text at h
  cases hr : t.resolve cwd path with
  | error e =>
    rw [hr] at h
    cases h
  | ok found =>
    rw [hr] at h
    cases found with
    | directory place => cases h
    | file content => exact ⟨.regular, stat_eq_ok_iff.2 ⟨_, hr, rfl⟩, by decide⟩

namespace ContentCheck

/-- a pattern, whatever its mode, or a predicate on the README -/
def looksForText (check : ContentCheck) : Prop :=
  (∃ p, check = .pattern p) ∨ ∃ q ∈ Readme.predicates, check = .predicate q

theorem notEmpty_passes {check : ContentCheck} {cs : List Char} (h : check.looksForText)
    (hv : check.validate = .ok ()) (hp : check.passes cs = true) :
    ContentCheck.notEmpty.passes cs = true := by
  show (!isAllBlank cs) = true
  rw [Bool.not_eq_true', Bool.eq_false_iff]
  intro hb
  rcases h with ⟨p, rfl⟩ | ⟨q, hq, rfl⟩
  · have hp : p.occursIn cs = true := hp
    have hv : p.validate = .ok () := hv
    have hblank : p.isBlank = false := by
      unfold Pattern.validate at hv
      split at hv
      · cases hv
      · rename_i hb
        exact Bool.eq_false_iff.2 hb
    rw [Pattern.occursIn_eq_false hblank hb] at hp
    cases hp
  · have hp : q.condition.holds cs = true := hp
    rw [Condition.holds_eq_false (Readme.needsText_predicates q hq) hb] at hp
    cases hp

end ContentCheck

namespace Rule
variable {disk : Disk} {r : Rule}

theorem passed_on_presence (h : disk.ReadsFiles) {text : String}
    (hread : disk.read r.target.absolute = .ok text) (suite : String) :
    (r.demand = .presence .file → (r.result disk suite).passed = true) ∧
      (r.demand = .presence .directory → (r.result disk suite).passed = false) ∧
      (r.demand = .presence .absent → (r.result disk suite).passed = false) := by
  obtain ⟨kind, hs, hk⟩ := h hread
  obtain ⟨name, ⟨root, path⟩, demand⟩ := r
  change disk.stat (Path.join (Project.ofRoot root).root path) = .ok kind at hs
  refine ⟨?_, ?_, ?_⟩
  · rintro rfl
    show (((Project.ofRoot root).presence name path .file).result disk suite).passed = true
    exact Project.passed_file_iff.2 ⟨kind, hs, hk⟩
  · rintro rfl
    show (((Project.ofRoot root).presence name path .directory).result disk suite).passed = false
    refine Bool.eq_false_iff.2 fun hp => hk ?_
    rw [Project.passed_directory_iff.1 hp] at hs
    exact (Except.ok.inj hs).symm
  · rintro rfl
    show (((Project.ofRoot root).presence name path .absent).result disk suite).passed = false
    refine Bool.eq_false_iff.2 fun hp => ?_
    obtain ⟨e, he, -⟩ := Project.passed_absent_iff.1 hp
    rw [hs] at he
    cases he

/-- **Rules on one target do not pull apart.**  Where a rule on the text of a file passes, the rules
on the same target that ask for a file pass, and those that ask for a directory or for nothing fail.
If it looks for a pattern or for a topic of the README, the rule that the file be not empty passes,
too: no pattern is found in blanks, in whatever mode. -/
theorem coherent_of_passed {disk : Disk} (h : disk.ReadsFiles) :
    (∀ (r : Rule) (check : ContentCheck) (suite : String), r.demand = .content check →
      (r.result disk suite).passed = true →
      ∀ (r' : Rule) (suite' : String), r'.target = r.target →
        (r'.demand = .presence .file → (r'.result disk suite').passed = true) ∧
        (r'.demand = .presence .directory → (r'.result disk suite').passed = false) ∧
        (r'.demand = .presence .absent → (r'.result disk suite').passed = false) ∧
        (r'.demand = .content .notEmpty → check.looksForText →
          (r'.result disk suite').passed = true)) ∧
    ∀ (p : Pattern) (text : String), isAllBlank text.toList = true → p.test text ≠ .ok true := by
  refine ⟨fun r check suite hd hp r' suite' ht => ?_, fun p text => Pattern.test_ne_ok_true⟩
  obtain ⟨text, hread⟩ := exists_read_of_passed hd hp
  have hread' : disk.read r'.target.absolute = .ok text := by rwa [ht]
  obtain ⟨hfile, hdirectory, habsent⟩ := passed_on_presence h hread' suite'
  refine ⟨hfile, hdirectory, habsent, fun hd' hl => ?_⟩
  obtain ⟨hv, hpass⟩ := (passed_of_read hd hread).1 hp
  exact (passed_of_read hd' hread').2 ⟨rfl, ContentCheck.notEmpty_passes hl hv hpass⟩

/-- a script that drops a table is a file and is not empty -/
theorem coherent_of_dropped :
    let script : FileName := .text "drop.sql" (by decide)
    let t : Tree := ⟨[(script, .file "drop\ttable users".toUTF8)]⟩
    let disk := t.disk t.top
    let p := Project.ofRoot "/"
    ((p.pattern "" "drop.sql" "DROP TABLE" "" .normalized).result disk "").passed = true ∧
      ((p.file "drop.sql").result disk "").passed = true ∧
      ((p.directory "drop.sql").result disk "").passed = false ∧
      ((p.presence "" "drop.sql" .absent).result disk "").passed = false ∧
      ((p.notEmpty "drop.sql").result disk "").passed = true ∧
      isAllBlank "\t \u3000\n".toList = true ∧
      (Pattern.mk "DROP TABLE" "" .normalized).test "\t \u3000\n" ≠ .ok true := by
  intro script t disk p
  have hread : disk.read (Path.join "/" "drop.sql") = .ok "drop\ttable users" := by
    decide +kernel
  have hp : ((p.pattern "" "drop.sql" "DROP TABLE" "" .normalized).result disk "").passed = true :=
    (passed_of_read rfl hread).2 (by decide +kernel)
  obtain ⟨hcoherent, hblank⟩ := coherent_of_passed (t.readsFiles_disk t.top)
  have hon := hcoherent _ _ "" rfl hp
  have hb : isAllBlank "\t \u3000\n".toList = true := by decide
  exact ⟨hp, (hon (p.file "drop.sql") "" rfl).1 rfl, (hon (p.directory "drop.sql") "" rfl).2.1 rfl,
    (hon (p.presence "" "drop.sql" .absent) "" rfl).2.2.1 rfl,
    (hon (p.notEmpty "drop.sql") "" rfl).2.2.2 rfl (.inl ⟨_, rfl⟩), hb, hblank _ _ hb⟩

end Rule

end ProjectAudit
