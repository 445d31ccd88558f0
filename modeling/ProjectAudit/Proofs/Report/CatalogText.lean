import Mathlib
import ProjectAudit.Proofs.Path.Pieces
import ProjectAudit.Proofs.Report.Lines
import ProjectAudit.Proofs.Text.Quoted

/-!
# The catalog as text, line by line

A set has a heading and a line for each of its rules (`catalogText_eq_joinLines`).  A line feed in a
pattern is escaped, so only the other parts of a line could break it
(`Rule.IsOnOneLine.newline_not_mem_listing`), and the line of a rule with a pattern tells the
pattern, whatever characters it has (`Rule.listing_eq_iff`).
-/

namespace ProjectAudit
open Text

/-! ## the lines of a catalog -/

/-- the line of a rule, without its end -/
def Rule.listing (r : Rule) : String := "  - " ++ r.name ++ ": " ++ r.summary

namespace RuleSet

def heading (set : RuleSet) : String :=
  set.title ++ " (" ++ set.name ++ ", " ++ toString set.rules.length ++ " rules)"

def listings (set : RuleSet) : List String := set.heading :: set.rules.map (·.listing)

theorem length_listings (set : RuleSet) : set.listings.length = 1 + set.rules.length := by
  rw [listings, List.length_cons, List.length_map, Nat.add_comm]

theorem catalogText_eq_joinLines (set : RuleSet) : set.catalogText = joinLines set.listings := by
  have hrules : String.join (set.rules.map (·.catalogLine)) =
      joinLines (set.rules.map (·.listing)) := by
    rw [joinLines, List.map_map]
    rfl
  have hend : " rules)\n" = " rules)" ++ "\n" := by decide
  rw [catalogText, hrules, listings, joinLines_cons, heading, hend]
  simp only [String.append_assoc]

end RuleSet

theorem catalogText_eq_joinLines (sets : List RuleSet) :
    catalogText sets = joinLines (sets.flatMap (·.listings)) := by
  rw [joinLines_flatMap, catalogText]
  exact congrArg String.join (List.map_congr_left fun set _ => set.catalogText_eq_joinLines)

theorem length_flatMap_listings (sets : List RuleSet) :
    (sets.flatMap (·.listings)).length = (sets.map fun set => 1 + set.rules.length).sum := by
  rw [List.length_flatMap]
  simp only [RuleSet.length_listings]

/-- the lines of a set stand behind those of the sets before it -/
theorem getElem?_flatMap_listings (before after : List RuleSet) (set : RuleSet) {i : Nat}
    (hi : i < 1 + set.rules.length) :
    ((before ++ set :: after).flatMap (·.listings))[
        (before.map fun set => 1 + set.rules.length).sum + i]? = set.listings[i]? := by
  have hlength := length_flatMap_listings before
  rw [← set.length_listings] at hi
  rw [List.flatMap_append, List.flatMap_cons,
    List.getElem?_append_right (by rw [hlength]; exact Nat.le_add_right _ _), hlength,
    Nat.add_sub_cancel_left, List.getElem?_append_left hi]

/-! ## line feeds -/

/-- nothing but a pattern has a line feed -/
structure Rule.IsOnOneLine (r : Rule) : Prop where
  name : '\n' ∉ r.name.toList
  path : '\n' ∉ r.target.relative.toList
  description : ∀ p, r.demand = .content (.predicate p) → '\n' ∉ p.description.toList

/-- nothing but the patterns of a set has a line feed -/
structure RuleSet.IsOnLines (set : RuleSet) : Prop where
  name : '\n' ∉ set.name.toList
  title : '\n' ∉ set.title.toList
  rules : ∀ r ∈ set.rules, r.IsOnOneLine

/-- control characters are escaped -/
theorem not_mem_quoted {c : Char} (hc : c.toNat < 0x20) (s : String) : c ∉ (quoted s).toList := by
  have hcontrols : ∀ n < 0x20, isVisibleAlone (Char.ofNat n) = false := by decide +kernel
  have hvisible := hcontrols c.toNat hc
  rw [Char.ofNat_toNat] at hvisible
  intro h
  rw [quoted, String.toList_ofList] at h
  exact Bool.false_ne_true (hvisible.symm.trans (isVisibleAlone_of_mem_quote h))

namespace Rule
variable {r : Rule}

/-- control characters get into a summary with the path or the description -/
theorem not_mem_summary {c : Char} (hc : c.toNat < 0x20) (hpath : c ∉ r.target.relative.toList)
    (hdescription : ∀ p, r.demand = .content (.predicate p) → c ∉ p.description.toList) :
    c ∉ r.summary.toList := by
  have hwords : ∀ {words : String}, words.toList.all (0x20 ≤ ·.toNat) = true →
      c ∉ words.toList := fun hall h =>
    absurd hc (Nat.not_lt_of_le (of_decide_eq_true (List.all_eq_true.1 hall c h)))
  have hne : ∀ d : Char, 0x20 ≤ d.toNat → c ≠ d := by
    rintro d hd rfl
    exact absurd hc (Nat.not_lt_of_le hd)
  have hdisplay : c ∉ r.target.display.toList :=
    Path.not_mem_display (hne '/' (by decide)) (hne '.' (by decide)) hpath
  unfold summary
  cases hd : r.demand with
  | presence expectation =>
    have hexpected : c ∉ expectation.describe.toList := by
      cases expectation <;> exact hwords (by decide)
    simp only [String.toList_append, List.mem_append, not_or]
    exact ⟨⟨hdisplay, hwords (by decide)⟩, hexpected⟩
  | content check =>
    cases check with
    | pattern p =>
      simp only [String.toList_append, List.mem_append, not_or]
      exact ⟨⟨hdisplay, hwords (by decide)⟩, not_mem_quoted hc p.text⟩
    | predicate p =>
      simp only [String.toList_append, List.mem_append, not_or]
      exact ⟨⟨hdisplay, hwords (by decide)⟩, hdescription p hd⟩
    | notEmpty =>
      simp only [String.toList_append, List.mem_append, not_or]
      exact ⟨hdisplay, hwords (by decide)⟩

theorem IsOnOneLine.newline_not_mem_summary (h : r.IsOnOneLine) : '\n' ∉ r.summary.toList :=
  not_mem_summary (by decide) h.path h.description

theorem IsOnOneLine.newline_not_mem_listing (h : r.IsOnOneLine) : '\n' ∉ r.listing.toList := by
  simp [listing, h.name, h.newline_not_mem_summary]

end Rule

theorem RuleSet.IsOnLines.newline_not_mem_listings {set : RuleSet} (h : set.IsOnLines) :
    ∀ line ∈ set.listings, '\n' ∉ line.toList := by
  intro line hl
  rcases List.mem_cons.1 hl with rfl | hl
  · simp [heading, h.name, h.title, newline_not_mem_toDigits]
  · obtain ⟨r, hr, rfl⟩ := List.mem_map.1 hl
    exact (h.rules r hr).newline_not_mem_listing

/-! ## patterns -/

theorem quoted_inj {s t : String} : quoted s = quoted t ↔ s = t := by
  refine ⟨fun h => ?_, congrArg quoted⟩
  exact String.toList_inj.1 (quote_injective (String.ofList_injective h))

namespace Rule
variable {r s : Rule} {p q : Pattern}

theorem listing_of_pattern (h : r.demand = .content (.pattern p)) : r.listing =
    "  - " ++ r.name ++ ": " ++ (r.target.display ++ " contains ") ++ quoted p.text := by
  rw [listing, summary, h]
  simp only [String.append_assoc]

/-- the pattern is all that the lines can differ in -/
theorem listing_eq_iff (hr : r.demand = .content (.pattern p))
    (hs : s.demand = .content (.pattern q)) (hname : r.name = s.name)
    (hpath : r.target.display = s.target.display) : r.listing = s.listing ↔ p.text = q.text := by
  rw [listing_of_pattern hr, listing_of_pattern hs, hname, hpath, String.append_right_inj,
    quoted_inj]

end Rule

/-! ## the catalog -/

/-- **The catalog shows every rule on a line of its own, and every pattern as it is.**  If no line
feed stands in the names and titles of the sets, the names and paths of the rules and the
descriptions of the predicates, the lines are those of the sets in order, each a heading and then
its rules, whatever characters the patterns have.  Two rules of the same name and on the same path
that look for a pattern have the same line exactly if they look for the same one, because the quoted
form of a text is read back as that text; and no line of any kind ends in a quoted form. -/
theorem catalogText_faithful :
    (∀ sets : List RuleSet, (∀ set ∈ sets, set.IsOnLines) → ∃ lines : List String,
      textLines (catalogText sets) = lines ++ [""] ∧
        lines.length = (sets.map fun set => 1 + set.rules.length).sum ∧
        ∀ before set after, sets = before ++ set :: after →
          let start := (before.map fun set => 1 + set.rules.length).sum
          lines[start]? = some set.heading ∧
            ∀ (i : Nat) (hi : i < set.rules.length),
              lines[start + 1 + i]? = some (set.rules[i].listing)) ∧
    (∀ (r s : Rule) (p q : Pattern), r.demand = .content (.pattern p) →
      s.demand = .content (.pattern q) → r.name = s.name →
        r.target.display = s.target.display → (r.listing = s.listing ↔ p.text = q.text)) ∧
    ∀ s : String, unquote? (quoted s).toList = some s.toList ∧
      (∀ t : String, quoted s = quoted t ↔ s = t) ∧
      ∀ c ∈ lineBreaks, c ∉ (quoted s).toList := by
  refine ⟨fun sets h => ⟨sets.flatMap (·.listings), ?_, length_flatMap_listings sets, ?_⟩,
    fun r s p q hr hs hname hpath => Rule.listing_eq_iff hr hs hname hpath, fun s => ?_⟩
  · rw [catalogText_eq_joinLines]
    refine textLines_joinLines fun line hl => ?_
    obtain ⟨set, hset, hl⟩ := List.mem_flatMap.1 hl
    exact (h set hset).newline_not_mem_listings line hl
  · rintro before set after rfl start
    constructor
    · exact getElem?_flatMap_listings before after set (i := 0) (by omega)
    · intro i hi
      rw [Nat.add_assoc, getElem?_flatMap_listings before after set (by omega), Nat.add_comm 1 i,
        RuleSet.listings, List.getElem?_cons_succ, List.getElem?_map,
        List.getElem?_eq_getElem hi, Option.map_some]
  · rw [quoted, String.toList_ofList]
    exact ⟨unquote?_quote _, fun t => quoted_inj, fun c hc => not_mem_quote_of_lineBreak hc⟩

/-- a rule that looks for the pattern -/
def lineRule (pattern : String) : Rule where
  name := "odd"
  target := ⟨"", "a.sql"⟩
  demand := .content (.pattern ⟨pattern, "", .literal⟩)

/-- one pattern is a line feed, and the other is what a line feed is escaped as -/
theorem catalogText_of_line_feed :
    let set : RuleSet := ⟨"s", "S", [lineRule "\n", lineRule "\\n"]⟩
    set.IsOnLines ∧
      (∃ lines : List String, textLines (catalogText [set]) = lines ++ [""] ∧ lines.length = 3 ∧
        lines[1]? = some (lineRule "\n").listing ∧ lines[2]? = some (lineRule "\\n").listing) ∧
      (lineRule "\n").listing ≠ (lineRule "\\n").listing := by
  intro set
  have hrule : ∀ pattern, (lineRule pattern).IsOnOneLine := fun pattern =>
    ⟨(by decide : '\n' ∉ "odd".toList), (by decide : '\n' ∉ "a.sql".toList),
      fun p hp => by cases hp⟩
  have hset : set.IsOnLines := by
    refine ⟨by decide, by decide, fun r hr => ?_⟩
    rcases List.mem_cons.1 hr with rfl | hr
    · exact hrule _
    · rw [List.mem_singleton.1 hr]
      exact hrule _
  obtain ⟨hlines, hpatterns, -⟩ := catalogText_faithful
  obtain ⟨lines, hcatalog, hlength, hplaces⟩ :=
    hlines [set] fun s hs => List.mem_singleton.1 hs ▸ hset
  obtain ⟨-, hplace⟩ := hplaces [] set [] rfl
  refine ⟨hset, ⟨lines, hcatalog, hlength, hplace 0 (by decide), hplace 1 (by decide)⟩, ?_⟩
  intro he
  have hsame := (hpatterns (lineRule "\n") (lineRule "\\n") ⟨"\n", "", .literal⟩
    ⟨"\\n", "", .literal⟩ rfl rfl rfl rfl).1 he
  exact absurd hsame (by decide)

end ProjectAudit
