import ProjectAudit.Proofs.Catalog.Checks
import ProjectAudit.Proofs.Document.Needles
import ProjectAudit.Proofs.Rule.Content
import ProjectAudit.Proofs.Text.Growth
import ProjectAudit.Proofs.Text.Search

/-!
# Adding text breaks no check

What a check of the catalog finds in a text it finds in a longer one: when more text follows, and,
unless it looks for the title from the start of the text, also when text stands before
(`Suite.passed_append`).
-/

namespace ProjectAudit
open Text

/-! ## conditions -/

namespace Condition

/-- whether a line of the text is looked for by the lines above it -/
def looksForTitle : Condition → Bool
  | .headingWithin _ | .proseAfterTitle _ => true
  | .both a b | .either a b => a.looksForTitle || b.looksForTitle
  | _ => false

/-- no needle that is looked for in lower case has a small sigma, which text around may change -/
def isSigmaFree : Condition → Bool
  | .mentionsAny needles | .mentionsAll needles =>
    needles.all fun needle => Text.isSigmaFree needle.toList
  | .both a b | .either a b => a.isSigmaFree && b.isSigmaFree
  | _ => true

end Condition

theorem infix_lower_of_needles {needles : List String} {cs : List Char}
    (h : needles.all (fun n => isSigmaFree n.toList) = true) (before later : List Char) :
    ∀ n ∈ needles, n.toList <:+: lower cs → n.toList <:+: lower (before ++ cs ++ later) := by
  intro n hn hi
  exact infix_lower_of_isSigmaFree (List.all_eq_true.1 h n hn) hi before later

theorem Condition.holds_append {condition : Condition} {cs before : List Char}
    (hs : condition.isSigmaFree = true) (hb : before = [] ∨ condition.looksForTitle = false)
    (h : condition.holds cs = true) (later : List Char) :
    condition.holds (before ++ cs ++ later) = true := by
  have hi : cs <:+: before ++ cs ++ later := List.infix_append _ _ _
  induction condition with
  | headingWithin window =>
    rcases hb with rfl | hb
    · exact headingWithin_append h later
    · cases hb
  | proseAfterTitle length =>
    rcases hb with rfl | hb
    · exact proseAfterTitle_append h later
    · cases hb
  | hasAny needles => exact hasAny_mono (fun n _ hn => hn.trans hi) h
  | hasAll needles => exact hasAll_mono (fun n _ hn => hn.trans hi) h
  | mentionsAny needles => exact hasAny_mono (infix_lower_of_needles hs before later) h
  | mentionsAll needles => exact hasAll_mono (infix_lower_of_needles hs before later) h
  | shoutsAll needles => exact hasAll_mono (fun n _ hn => hn.trans (infix_upper hi)) h
  | occurs marker times =>
    have hle := of_decide_eq_true h
    exact decide_eq_true (hle.trans (occurrences_le_occurrences_append _ before cs later))
  | both a b iha ihb =>
    obtain ⟨ha, hb'⟩ := Bool.and_eq_true_iff.1 h
    obtain ⟨hsa, hsb⟩ := Bool.and_eq_true_iff.1 hs
    have hl : before = [] ∨ a.looksForTitle = false ∧ b.looksForTitle = false :=
      hb.imp_right Bool.or_eq_false_iff.1
    exact Bool.and_eq_true_iff.2
      ⟨iha hsa (hl.imp_right And.left) ha, ihb hsb (hl.imp_right And.right) hb'⟩
  | either a b iha ihb =>
    obtain ⟨hsa, hsb⟩ := Bool.and_eq_true_iff.1 hs
    have hl : before = [] ∨ a.looksForTitle = false ∧ b.looksForTitle = false :=
      hb.imp_right Bool.or_eq_false_iff.1
    rcases Bool.or_eq_true_iff.1 h with ha | hb'
    · exact Bool.or_eq_true_iff.2 (.inl (iha hsa (hl.imp_right And.left) ha))
    · exact Bool.or_eq_true_iff.2 (.inr (ihb hsb (hl.imp_right And.right) hb'))

/-! ## checks -/

namespace ContentCheck

def isSigmaFree : ContentCheck → Bool
  | .pattern p => p.mode ≠ .ignoreCase || Text.isSigmaFree (lower p.text.toList)
  | .predicate q => q.condition.isSigmaFree
  | .notEmpty => true

/-- the predicates whose lines are counted from the start of the text or from the title -/
def looksForTitle : ContentCheck → Bool
  | .predicate q => q.name = "project title" || q.name = "project description"
  | _ => false

/-- no other predicate hides a condition on the title -/
def titleIsNamed (check : ContentCheck) : Bool :=
  match check with
  | .predicate q => check.looksForTitle || !q.condition.looksForTitle
  | _ => true

theorem passes_append {check : ContentCheck} {cs before : List Char}
    (hs : check.isSigmaFree = true) (ht : check.titleIsNamed = true)
    (hb : before = [] ∨ check.looksForTitle = false) (h : check.passes cs = true)
    (later : List Char) : check.passes (before ++ cs ++ later) = true := by
  have hi : cs <:+: before ++ cs ++ later := List.infix_append _ _ _
  cases check with
  | predicate q =>
    refine Condition.holds_append hs (hb.imp_right fun hn => ?_) h later
    have ht : (looksForTitle (.predicate q) || !q.condition.looksForTitle) = true := ht
    rwa [hn, Bool.false_or, Bool.not_eq_true'] at ht
  | notEmpty =>
    have h : (!isAllBlank cs) = true := h
    show (!isAllBlank (before ++ cs ++ later)) = true
    unfold isAllBlank at h ⊢
    rw [Bool.not_eq_true'] at h ⊢
    rw [List.all_append, List.all_append, h, Bool.and_false, Bool.false_and]
  | pattern p =>
    obtain ⟨text, message, mode⟩ := p
    cases mode with
    | literal => exact occursIn_iff.2 ((occursIn_iff.1 h).trans hi)
    | ignoreCase => exact occursIn_iff.2 (infix_lower_of_isSigmaFree hs (occursIn_iff.1 h) _ _)
    | normalized =>
      exact occursIn_iff.2 ((occursIn_iff.1 h).trans (isInfix_normalize before cs later))

end ContentCheck

/-! ## rules of the catalog -/

theorem Suite.isSigmaFree_checks (s : Suite) : ∀ check ∈ s.checks, check.isSigmaFree = true := by
  have h : s.checks.all (·.isSigmaFree) = true := by
    cases s <;> decide +kernel
  exact List.all_eq_true.1 h

theorem Suite.titleIsNamed_checks (s : Suite) : ∀ check ∈ s.checks, check.titleIsNamed = true := by
  have h : s.checks.all (·.titleIsNamed) = true := by
    cases s <;> decide +kernel
  exact List.all_eq_true.1 h

theorem Suite.passed_of_longer {s : Suite} {p : Project} {built disk disk' : Disk} {r : Rule}
    {check : ContentCheck} {before text later : String} (hr : r ∈ s.rules p built)
    (hd : r.demand = .content check) (hread : disk.read r.target.absolute = .ok text)
    (hread' : disk'.read r.target.absolute = .ok (before ++ text ++ later))
    (hb : before.toList = [] ∨ check.looksForTitle = false)
    (hp : (r.result disk s.name).passed = true) : (r.result disk' s.name).passed = true := by
  have hc := mem_checks hr hd
  obtain ⟨hv, hpass⟩ := (Rule.passed_of_read hd hread).1 hp
  refine (Rule.passed_of_read hd hread').2 ⟨hv, ?_⟩
  rw [String.toList_append, String.toList_append]
  exact ContentCheck.passes_append (s.isSigmaFree_checks check hc) (s.titleIsNamed_checks check hc)
    hb hpass later.toList

/-- for a rule of the catalog, whatever disk its suite was put together on -/
theorem Suite.passed_append {s : Suite} {p : Project} {built : Disk} {r : Rule}
    {check : ContentCheck} (hr : r ∈ s.rules p built) (hd : r.demand = .content check) :
    (∀ (disk disk' : Disk) (text later : String),
      disk.read r.target.absolute = .ok text →
      disk'.read r.target.absolute = .ok (text ++ later) →
      (r.result disk s.name).passed = true → (r.result disk' s.name).passed = true) ∧
    (check.looksForTitle = false → ∀ (disk disk' : Disk) (before text later : String),
      disk.read r.target.absolute = .ok text →
      disk'.read r.target.absolute = .ok (before ++ text ++ later) →
      (r.result disk s.name).passed = true → (r.result disk' s.name).passed = true) := by
  refine ⟨?_, ?_⟩
  · intro disk disk' text later hread hread'
    rw [← String.empty_append (s := text)] at hread'
    exact passed_of_longer hr hd hread hread' (.inl rfl)
  · intro hl disk disk' before text later hread hread'
    exact passed_of_longer hr hd hread hread' (.inr hl)

/-- a column stays found when a script is written around it -/
theorem passed_append_columnRule :
    let r := Catalog.Schema.columnRule (.ofRoot ".") "ID"
    (r.result (Disk.ofText "id") "schema").passed = true ∧
      (r.result (Disk.ofText ("CREATE TABLE todos (" ++ "id" ++ " SERIAL);")) "schema").passed =
        true := by
  intro r
  have hr : r ∈ Suite.schema.rules (.ofRoot ".") (Disk.ofText "") := by
    refine List.mem_append_left _ (List.mem_append_right _ ?_)
    exact List.mem_map_of_mem (by decide)
  have hp : (r.result (Disk.ofText "id") "schema").passed = true := by
    decide +kernel
  exact ⟨hp, (Suite.passed_append hr rfl).2 rfl _ _ _ _ _ rfl rfl hp⟩

end ProjectAudit
