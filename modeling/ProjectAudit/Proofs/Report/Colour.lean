import ProjectAudit.Proofs.Json.Printed
import ProjectAudit.Proofs.Report.CatalogText
import ProjectAudit.Proofs.Text.Lines

/-!
# Colour

Colour is shown by sequences that are put around a text, and no text of a span is changed for it.
So the spans are read back without colour by leaving out every such sequence, unless one begins in
the texts themselves (`withoutColour_renderSpans`).  Nothing that a report adds to its results begins
one (`hasNoEscape_runSpans`), and JSON has none at all (`Json.hasNoEscape_line`).
-/

namespace ProjectAudit

/-! ## texts without sequences -/

/-- no sequence for the terminal begins in the text -/
def HasNoEscape (s : String) : Prop := '\x1b' ∉ s.toList

instance (s : String) : Decidable (HasNoEscape s) := by unfold HasNoEscape; infer_instance

@[simp] theorem hasNoEscape_append {s t : String} :
    HasNoEscape (s ++ t) ↔ HasNoEscape s ∧ HasNoEscape t := by
  simp [HasNoEscape]

@[simp] theorem hasNoEscape_repr (n : Nat) : HasNoEscape n.repr := by
  simpa [HasNoEscape] using not_mem_toDigits (c := '\x1b') (by decide) n

theorem hasNoEscape_join {texts : List String} (h : ∀ text ∈ texts, HasNoEscape text) :
    HasNoEscape (String.join texts) := by
  induction texts with
  | nil => decide
  | cons text texts ih =>
    rw [String.join_cons, hasNoEscape_append]
    exact ⟨h text List.mem_cons_self, ih fun t ht => h t (List.mem_cons_of_mem _ ht)⟩

/-! ## leaving the sequences out -/

/-- the length of a sequence `ESC [ digits m` that the text begins with -/
def renditionLength? : List Char → Option Nat
  | '\x1b' :: '[' :: cs =>
    if (cs.dropWhile Char.isDigit).head? = some 'm' then
      some ((cs.takeWhile Char.isDigit).length + 3)
    else none
  | _ => none

/-- when `skip` more characters belong to the sequence before -/
def dropRenditions : Nat → List Char → List Char
  | _, [] => []
  | skip + 1, _ :: cs => dropRenditions skip cs
  | 0, c :: cs =>
    match renditionLength? (c :: cs) with
    | some length => dropRenditions (length - 1) cs
    | none => c :: dropRenditions 0 cs

def withoutColour (s : String) : String := .ofList (dropRenditions 0 s.toList)

theorem dropRenditions_eq (skip : Nat) (cs : List Char) :
    dropRenditions skip cs = dropRenditions 0 (cs.drop skip) := by
  induction cs generalizing skip with
  | nil => cases skip <;> rfl
  | cons c cs ih =>
    cases skip with
    | zero => rfl
    | succ skip => exact ih skip

theorem renditionLength?_of_ne {c : Char} (h : c ≠ '\x1b') (cs : List Char) :
    renditionLength? (c :: cs) = none := by
  simp [renditionLength?, h]

theorem dropRenditions_append {cs : List Char} (h : '\x1b' ∉ cs) (rest : List Char) :
    dropRenditions 0 (cs ++ rest) = cs ++ dropRenditions 0 rest := by
  induction cs with
  | nil => rfl
  | cons c cs ih =>
    obtain ⟨hc, hcs⟩ := not_or.1 (mt List.mem_cons.2 h)
    rw [List.cons_append, dropRenditions, renditionLength?_of_ne (Ne.symm hc)]
    exact congrArg (c :: ·) (ih hcs)

theorem toList_rendition (code : Nat) :
    (rendition code).toList = '\x1b' :: '[' :: (Nat.toDigits 10 code ++ ['m']) := by
  simp [rendition]

theorem dropRenditions_rendition (code : Nat) (rest : List Char) :
    dropRenditions 0 ((rendition code).toList ++ rest) = dropRenditions 0 rest := by
  have hdigits : ∀ c ∈ Nat.toDigits 10 code, c.isDigit = true := fun _ hc =>
    Nat.isDigit_of_mem_toDigits (by decide) (by decide) hc
  have htake : (Nat.toDigits 10 code ++ 'm' :: rest).takeWhile Char.isDigit =
      Nat.toDigits 10 code := by
    rw [List.takeWhile_append_of_pos hdigits]
    simp
  have hdrop : (Nat.toDigits 10 code ++ 'm' :: rest).dropWhile Char.isDigit = 'm' :: rest := by
    rw [List.dropWhile_append_of_pos hdigits]
    simp
  have hlist : (rendition code).toList ++ rest =
      '\x1b' :: '[' :: (Nat.toDigits 10 code ++ 'm' :: rest) := by
    simp [toList_rendition]
  have hlength : renditionLength? ('\x1b' :: '[' :: (Nat.toDigits 10 code ++ 'm' :: rest)) =
      some ((Nat.toDigits 10 code).length + 3) := by
    rw [renditionLength?, hdrop, htake]
    rfl
  have hrest : ('[' :: (Nat.toDigits 10 code ++ 'm' :: rest)).drop
      ((Nat.toDigits 10 code).length + 2) = rest := by
    simp [List.drop_append]
  rw [hlist, dropRenditions, hlength]
  exact (dropRenditions_eq _ _).trans (congrArg (dropRenditions 0) hrest)

/-! ## spans -/

theorem dropRenditions_render {s : Span} (h : HasNoEscape s.text) (colour : Bool)
    (rest : List Char) :
    dropRenditions 0 ((s.render colour).toList ++ rest) = s.text.toList ++ dropRenditions 0 rest := by
  obtain ⟨emphasis, text⟩ := s
  have hplain : ∀ rest, dropRenditions 0 (text.toList ++ rest) =
      text.toList ++ dropRenditions 0 rest := dropRenditions_append h
  cases colour with
  | false => exact hplain rest
  | true =>
    cases emphasis with
    | none => exact hplain rest
    | some e =>
      have hrender : ((Span.mk (some e) text).render true).toList ++ rest =
          (rendition e.start).toList ++ (text.toList ++ ((rendition e.stop).toList ++ rest)) := by
        simp [Span.render]
      rw [hrender, dropRenditions_rendition, hplain, dropRenditions_rendition]

theorem renderSpans_cons (s : Span) (spans : List Span) (colour : Bool) :
    renderSpans colour (s :: spans) = s.render colour ++ renderSpans colour spans := by
  simp [renderSpans]

/-- with colour or without, it is the same text -/
theorem withoutColour_renderSpans {spans : List Span} (h : ∀ s ∈ spans, HasNoEscape s.text)
    (colour : Bool) : withoutColour (renderSpans colour spans) = renderSpans false spans := by
  have key : dropRenditions 0 (renderSpans colour spans).toList =
      (renderSpans false spans).toList := by
    induction spans with
    | nil => rfl
    | cons s spans ih =>
      have hplain : s.render false = s.text := rfl
      rw [renderSpans_cons, renderSpans_cons, String.toList_append, String.toList_append,
        dropRenditions_render (h s List.mem_cons_self),
        ih fun t ht => h t (List.mem_cons_of_mem _ ht), hplain]
  rw [withoutColour, key, String.ofList_toList]

/-- a sequence that does not come to its end is kept -/
example : withoutColour "\x1b[31mFAIL\x1b[39m \x1b[1" = "FAIL \x1b[1" := by decide +kernel

/-- colour shows wherever a span is emphasised -/
theorem renderSpans_ne {spans : List Span} (h : ∀ s ∈ spans, HasNoEscape s.text)
    (he : ∃ s ∈ spans, s.emphasis.isSome) : renderSpans true spans ≠ renderSpans false spans := by
  have hplain : HasNoEscape (renderSpans false spans) :=
    hasNoEscape_join (List.forall_mem_map.2 h)
  obtain ⟨⟨emphasis, text⟩, hs, he⟩ := he
  obtain ⟨e, rfl⟩ := Option.isSome_iff_exists.1 he
  have hcoloured : ¬ HasNoEscape (renderSpans true spans) := by
    obtain ⟨before, after, rfl⟩ := List.append_of_mem hs
    rw [renderSpans_append, renderSpans_cons, hasNoEscape_append, hasNoEscape_append]
    refine fun hn => hn.2.1 ?_
    have hrender : ((Span.mk (some e) text).render true).toList =
        (rendition e.start).toList ++ (text ++ rendition e.stop).toList := by
      simp [Span.render]
    rw [hrender, toList_rendition]
    exact List.mem_append_left _ List.mem_cons_self
  intro heq
  rw [heq] at hcoloured
  exact hcoloured hplain

/-- where there is nothing to leave out -/
theorem withoutColour_eq_self {s : String} (h : HasNoEscape s) : withoutColour s = s := by
  have hdrop := dropRenditions_append h []
  rw [List.append_nil] at hdrop
  rw [withoutColour, hdrop]
  simp [dropRenditions]

/-! ## runs -/

theorem hasNoEscape_header : ∀ s ∈ headerSpans, HasNoEscape s.text := by
  decide

theorem RuleResult.hasNoEscape_spans {r : RuleResult} (h : HasNoEscape r.name) :
    ∀ s ∈ r.spans, HasNoEscape s.text := by
  unfold spans
  split <;> simp +decide [Span.plain, Span.green, Span.red, h]

theorem RuleSet.hasNoEscape_reportSpans {set : RuleSet} {report : Report}
    (htitle : HasNoEscape set.title) (hnames : ∀ r ∈ report.results, HasNoEscape r.name) :
    ∀ s ∈ set.reportSpans report, HasNoEscape s.text := by
  unfold reportSpans
  rw [List.forall_mem_append, List.forall_mem_flatMap]
  refine ⟨?_, fun r hr => r.hasNoEscape_spans (hnames r hr)⟩
  simp +decide [Span.plain, Span.bold, Span.dimmed, htitle]

theorem Report.hasNoEscape_summarySpans (report : Report) :
    ∀ s ∈ report.summarySpans, HasNoEscape s.text := by
  have htotals : HasNoEscape report.totalsSpan.text := by
    unfold totalsSpan
    split <;> simp +decide [Span.green, Span.red]
  simp +decide [summarySpans, htotals, Span.plain, Span.bold]

theorem hasNoEscape_runSpans {sets : List RuleSet} {disk : Disk}
    (htitles : ∀ set ∈ sets, HasNoEscape set.title)
    (hnames : ∀ set ∈ sets, ∀ r ∈ set.rules, HasNoEscape r.name) :
    ∀ s ∈ runSpans sets disk, HasNoEscape s.text := by
  unfold runSpans
  rw [List.forall_mem_append, List.forall_mem_append, List.forall_mem_flatMap]
  refine ⟨⟨hasNoEscape_header, fun set hset => ?_⟩, (runAll sets disk).hasNoEscape_summarySpans⟩
  refine set.hasNoEscape_reportSpans (htitles set hset) fun r hr => ?_
  obtain ⟨rule, hrule, rfl⟩ := List.mem_map.1 hr
  exact hnames set hset rule hrule

theorem RuleResult.hasNoEscape_failureBlock {r : RuleResult} (hsuite : HasNoEscape r.suite)
    (hname : HasNoEscape r.name) (hdetail : HasNoEscape r.detail) :
    ∀ s ∈ r.failureBlock.spans, HasNoEscape s.text := by
  unfold FailureBlock.spans
  rw [List.forall_mem_append, List.forall_mem_map]
  refine ⟨?_, fun line hline => ?_⟩
  · simp +decide [failureBlock, Span.plain, Span.red, Span.bold, hsuite, hname]
  · obtain ⟨cs, hcs, rfl⟩ := List.mem_map.1 hline
    have hline : HasNoEscape (.ofList cs) := fun hmem => by
      rw [String.toList_ofList] at hmem
      exact hdetail (Text.mem_of_mem_lines hcs hmem)
    simp +decide [Span.plain, hline]

theorem Report.hasNoEscape_failureSpans {report : Report}
    (h : ∀ r ∈ report.failures, HasNoEscape r.suite ∧ HasNoEscape r.name ∧ HasNoEscape r.detail) :
    ∀ s ∈ report.failureSpans, HasNoEscape s.text := by
  unfold failureSpans failureBlocks
  rw [List.flatMap_map, List.forall_mem_flatMap]
  intro r hr
  obtain ⟨hsuite, hname, hdetail⟩ := h r hr
  exact RuleResult.hasNoEscape_failureBlock hsuite hname hdetail

/-! ## JSON and catalogs -/

/-- such a character is escaped in JSON -/
theorem Json.hasNoEscape_line (value : Json) : HasNoEscape (value.pretty ++ "\n") := by
  intro h
  rcases (isWrittenAs_line value).isGap_or_le_of_mem _ h with hgap | hle
  · exact absurd hgap (by decide)
  · exact absurd hle (by decide)

theorem hasNoEscape_joinLines {lines : List String} (h : ∀ line ∈ lines, HasNoEscape line) :
    HasNoEscape (joinLines lines) := by
  refine hasNoEscape_join (List.forall_mem_map.2 fun line hline => ?_)
  simp +decide [h line hline]

theorem hasNoEscape_catalogText {sets : List RuleSet}
    (hsets : ∀ set ∈ sets, HasNoEscape set.name ∧ HasNoEscape set.title)
    (hrules : ∀ set ∈ sets, ∀ r ∈ set.rules, HasNoEscape r.name ∧ HasNoEscape r.summary) :
    HasNoEscape (catalogText sets) := by
  rw [catalogText_eq_joinLines]
  refine hasNoEscape_joinLines (List.forall_mem_flatMap.2 fun set hset => ?_)
  refine List.forall_mem_cons.2 ⟨?_, List.forall_mem_map.2 fun r hr => ?_⟩
  · simp +decide [RuleSet.heading, hsets set hset]
  · simp +decide [Rule.listing, hrules set hset r hr]

end ProjectAudit
