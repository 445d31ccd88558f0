import ProjectAudit.Proofs.Json.Grammar

/-!
# Scanning JSON

A machine with one step for each character, which finds the tokens of a text.  `Scan.Reads` says
for each state what the rest of the text may be: one step takes that to the next state
(`Scan.reads_cons`), and so the machine finds exactly the tokens that a text spells
(`Scan.run_eq_some_iff`).
-/

namespace ProjectAudit
namespace Json

/-! ## the machine -/

inductive Scan where
  | between
  | word (letters : List Char)
  | text (units : List Nat)
  | escape (units : List Nat)
  | hex (units : List Nat) (left value : Nat)

namespace Scan

/-- the first character after a token that is complete -/
def start (c : Char) : Option (Scan × List Token) :=
  if isGap c then some (.between, [])
  else if c = '"' then some (.text [], [])
  else if c.isAlphanum then some (.word [c], [])
  else (mark? c).map fun t => (.between, [t])

/-- the next state, with the tokens that are complete now -/
def step : Scan → Char → Option (Scan × List Token)
  | .between, c => start c
  | .word letters, c =>
    if c.isAlphanum then some (.word (letters ++ [c]), [])
    else (wordToken? letters).bind fun t => (start c).map fun next => (next.1, t :: next.2)
  | .text units, c =>
    if c = '"' then (charsOf? units).map fun cs => (.between, [.text (.ofList cs)])
    else if c = '\\' then some (.escape units, [])
    else if c.toNat < 0x20 then none
    else some (.text (units ++ [c.toNat]), [])
  | .escape units, c =>
    if c = 'u' then some (.hex units 3 0, [])
    else (shortEscape? c).map fun escaped => (.text (units ++ [escaped.toNat]), [])
  | .hex units left value, c =>
    (hexDigit? c).map fun digit =>
      match left with
      | 0 => (.text (units ++ [16 * value + digit]), [])
      | left + 1 => (.hex units left (16 * value + digit), [])

def finish : Scan → Option (List Token)
  | .between => some []
  | .word letters => (wordToken? letters).map ([·])
  | _ => none

def run : Scan → List Char → Option (List Token)
  | s, [] => s.finish
  | s, c :: cs => (s.step c).bind fun next => (run next.1 cs).map (next.2 ++ ·)

/-! ## the rest of a text -/

/-- what is left of a text, in quotation marks up to here -/
def ReadsText (units : List Nat) (cs : List Char) (ts : List Token) : Prop :=
  ∃ quoted more text rest later, cs = quoted ++ '"' :: rest ∧ Quotes quoted more ∧
    charsOf? (units ++ more) = some text ∧ Spells rest later ∧ ts = .text (.ofList text) :: later

/-- the tokens that the machine has still to find in the rest of a text -/
def Reads : Scan → List Char → List Token → Prop
  | .between, cs, ts => Spells cs ts
  | .word letters, cs, ts =>
    ∃ more t rest later, cs = more ++ rest ∧ (∀ c ∈ more, c.isAlphanum) ∧ EndsWord rest ∧
      wordToken? (letters ++ more) = some t ∧ Spells rest later ∧ ts = t :: later
  | .text units, cs, ts => ReadsText units cs ts
  | .escape units, cs, ts => ReadsText units ('\\' :: cs) ts
  | .hex units left value, cs, ts =>
    ∃ digits unit rest, cs = digits ++ rest ∧ digits.length = left + 1 ∧
      hexFrom? value digits = some unit ∧ ReadsText (units ++ [unit]) rest ts

/-- as `Reads`, for the state after a step and the tokens that the step has completed -/
def Continues (next? : Option (Scan × List Token)) (cs : List Char) (ts : List Token) : Prop :=
  ∃ next out later, next? = some (next, out) ∧ next.Reads cs later ∧ ts = out ++ later

section
variable {units : List Nat} {c : Char} {cs : List Char} {ts : List Token}

theorem not_continues_none : ¬ Continues none cs ts := by
  rintro ⟨next, out, later, hnext, -⟩
  cases hnext

theorem continues_some {next : Scan} {out : List Token} :
    Continues (some (next, out)) cs ts ↔ ∃ later, next.Reads cs later ∧ ts = out ++ later := by
  constructor
  · rintro ⟨next, out, later, hnext, h⟩
    cases hnext
    exact ⟨later, h⟩
  · rintro ⟨later, h⟩
    exact ⟨next, out, later, rfl, h⟩

theorem continues_silent {next : Scan} : Continues (some (next, [])) cs ts ↔ next.Reads cs ts := by
  simp [continues_some]

/-! ## words and marks -/

theorem isAlphanum_of_isGap (h : isGap c) : c.isAlphanum = false := by
  simp only [isGap, Bool.or_eq_true, decide_eq_true_eq] at h
  rcases h with ((rfl | rfl) | rfl) | rfl <;> rfl

theorem ne_nil_of_wordToken? {word : List Char} {t : Token} (h : wordToken? word = some t) :
    word ≠ [] := by
  have hnil : wordToken? [] = none := by decide
  rintro rfl
  rw [hnil] at h
  cases h

theorem isAlphanum_of_wordToken? {word : List Char} {t : Token} (h : wordToken? word = some t) :
    ∀ d ∈ word, d.isAlphanum := by
  unfold wordToken? at h
  split at h
  · subst word
    exact List.all_eq_true.1 (by decide)
  split at h
  · subst word
    exact List.all_eq_true.1 (by decide)
  · unfold numeral? at h
    split at h
    · rename_i hword
      simp only [Bool.and_eq_true, List.all_eq_true] at hword
      intro d hd
      rw [Char.isAlphanum, hword.1 d hd, Bool.or_true]
    · cases h

theorem start_of_mark? {t : Token} (h : mark? c = some t) : start c = some (.between, [t]) := by
  unfold mark? at h
  split at h <;> cases h <;> rfl

theorem start_of_isAlphanum (h : c.isAlphanum) : start c = some (.word [c], []) := by
  have hgap : ¬ isGap c := fun hc => by simp [isAlphanum_of_isGap hc] at h
  have hquote : c ≠ '"' := by
    rintro rfl
    exact absurd h (by decide)
  rw [start, if_neg hgap, if_neg hquote, if_pos h]

/-- all letters and digits up to the end of a word are part of it, the first one included -/
theorem reads_word_iff_spells :
    Reads (.word [c]) cs ts ↔ ∃ word t rest later, c :: cs = word ++ rest ∧
      wordToken? word = some t ∧ EndsWord rest ∧ Spells rest later ∧ ts = t :: later := by
  constructor
  · rintro ⟨more, t, rest, later, rfl, -, hend, hword, h⟩
    exact ⟨c :: more, t, rest, later, rfl, hword, hend, h⟩
  · rintro ⟨word, t, rest, later, hcs, hword, hend, h⟩
    obtain ⟨first, more, rfl⟩ := List.exists_cons_of_ne_nil (ne_nil_of_wordToken? hword)
    obtain ⟨rfl, rfl⟩ := List.cons.inj hcs
    have hmore : ∀ d ∈ more, d.isAlphanum := fun d hd =>
      isAlphanum_of_wordToken? hword d (List.mem_cons_of_mem _ hd)
    exact ⟨more, t, rest, later, rfl, hmore, hend, hword, h⟩

/-! ## texts -/

theorem not_readsText_nil : ¬ ReadsText units [] ts := by
  rintro ⟨quoted, more, text, rest, later, hcs, -⟩
  cases quoted <;> cases hcs

theorem readsText_quote : ReadsText units ('"' :: cs) ts ↔
    ∃ text later, charsOf? units = some text ∧ Spells cs later ∧
      ts = .text (.ofList text) :: later := by
  constructor
  · rintro ⟨quoted, more, text, rest, later, hcs, hquoted, htext, h⟩
    cases hquoted with
    | done =>
      cases hcs
      rw [List.append_nil] at htext
      exact ⟨text, later, htext, h⟩
    | raw _ hquote => exact absurd (List.cons.inj hcs).1.symm hquote
    | short => cases hcs
    | hex => cases hcs
  · rintro ⟨text, later, htext, h⟩
    exact ⟨[], [], text, cs, later, rfl, .done, by rw [List.append_nil, htext], h⟩

theorem readsText_raw (hquote : c ≠ '"') (hslash : c ≠ '\\') : ReadsText units (c :: cs) ts ↔
    0x20 ≤ c.toNat ∧ ReadsText (units ++ [c.toNat]) cs ts := by
  constructor
  · rintro ⟨quoted, more, text, rest, later, hcs, hquoted, htext, h⟩
    cases hquoted with
    | done => exact absurd (List.cons.inj hcs).1 hquote
    | raw hc _ _ hquoted =>
      obtain ⟨rfl, rfl⟩ := List.cons.inj hcs
      rw [List.append_cons] at htext
      exact ⟨hc, _, _, text, rest, later, rfl, hquoted, htext, h⟩
    | short => exact absurd (List.cons.inj hcs).1 hslash
    | hex => exact absurd (List.cons.inj hcs).1 hslash
  · rintro ⟨hc, quoted, more, text, rest, later, rfl, hquoted, htext, h⟩
    rw [← List.append_cons] at htext
    exact ⟨c :: quoted, _, text, rest, later, rfl, .raw hc hquote hslash hquoted, htext, h⟩

theorem readsText_short (hc : c ≠ 'u') : ReadsText units ('\\' :: c :: cs) ts ↔
    ∃ escaped, shortEscape? c = some escaped ∧ ReadsText (units ++ [escaped.toNat]) cs ts := by
  constructor
  · rintro ⟨quoted, more, text, rest, later, hcs, hquoted, htext, h⟩
    cases hquoted with
    | done => cases hcs
    | raw _ _ hslash => exact absurd (List.cons.inj hcs).1.symm hslash
    | short he hquoted =>
      obtain ⟨rfl, rfl⟩ := List.cons.inj (List.cons.inj hcs).2
      rw [List.append_cons] at htext
      exact ⟨_, he, _, _, text, rest, later, rfl, hquoted, htext, h⟩
    | hex => exact absurd (List.cons.inj (List.cons.inj hcs).2).1 hc
  · rintro ⟨escaped, he, quoted, more, text, rest, later, rfl, hquoted, htext, h⟩
    rw [← List.append_cons] at htext
    exact ⟨'\\' :: c :: quoted, _, text, rest, later, rfl, .short he hquoted, htext, h⟩

theorem readsText_hex : ReadsText units ('\\' :: 'u' :: cs) ts ↔ Reads (.hex units 3 0) cs ts := by
  constructor
  · rintro ⟨quoted, more, text, rest, later, hcs, hquoted, htext, h⟩
    cases hquoted with
    | done => cases hcs
    | raw _ _ hslash => exact absurd (List.cons.inj hcs).1.symm hslash
    | short he =>
      obtain ⟨rfl, -⟩ := List.cons.inj (List.cons.inj hcs).2
      cases he
    | hex hlength hdigits hquoted =>
      obtain ⟨-, rfl⟩ := List.cons.inj (List.cons.inj hcs).2
      rw [List.append_cons] at htext
      exact ⟨_, _, _, List.append_assoc .., hlength, hdigits, _, _, text, rest, later, rfl,
        hquoted, htext, h⟩
  · rintro ⟨digits, unit, after, rfl, hlength, hdigits, quoted, more, text, rest, later, rfl,
      hquoted, htext, h⟩
    rw [← List.append_cons] at htext
    exact ⟨_, _, text, rest, later, by simp, .hex hlength hdigits hquoted, htext, h⟩

/-! ## one step -/

theorem reads_between : Spells (c :: cs) ts ↔ Continues (start c) cs ts := by
  constructor
  · intro h
    generalize hall : c :: cs = all at h
    cases h with
    | done => cases hall
    | gap hc h =>
      cases hall
      rw [start, if_pos hc, continues_silent]
      exact h
    | mark hc h =>
      cases hall
      rw [start_of_mark? hc, continues_some]
      exact ⟨_, h, rfl⟩
    | @word word t rest later hword hend h =>
      obtain ⟨first, more, rfl⟩ := List.exists_cons_of_ne_nil (ne_nil_of_wordToken? hword)
      obtain ⟨rfl, -⟩ := List.cons.inj hall
      have hc := isAlphanum_of_wordToken? hword c List.mem_cons_self
      rw [start_of_isAlphanum hc, continues_silent, reads_word_iff_spells]
      exact ⟨c :: more, t, rest, later, hall, hword, hend, h, rfl⟩
    | text hquoted htext h =>
      obtain ⟨rfl, rfl⟩ := List.cons.inj hall
      exact continues_silent.2 ⟨_, _, _, _, _, rfl, hquoted, htext, h, rfl⟩
  · intro h
    unfold start at h
    split at h
    · exact .gap ‹_› (continues_silent.1 h)
    split at h
    · subst c
      obtain ⟨quoted, more, text, rest, later, rfl, hquoted, htext, hrest, rfl⟩ :=
        continues_silent.1 h
      exact .text hquoted htext hrest
    split at h
    · obtain ⟨word, t, rest, later, hcs, hword, hend, hrest, rfl⟩ :=
        reads_word_iff_spells.1 (continues_silent.1 h)
      rw [hcs]
      exact .word hword hend hrest
    · cases ht : mark? c with
      | none =>
        rw [ht] at h
        exact (not_continues_none h).elim
      | some t =>
        rw [ht] at h
        obtain ⟨later, hrest, rfl⟩ := continues_some.1 h
        exact .mark ht hrest

theorem reads_word {letters : List Char} :
    Reads (.word letters) (c :: cs) ts ↔ Continues (step (.word letters) c) cs ts := by
  rw [step]
  split_ifs with hc
  · rw [continues_silent]
    constructor
    · rintro ⟨more, t, rest, later, hcs, hmore, hend, hword, h⟩
      cases more with
      | nil => exact absurd hc (hend c (congrArg List.head? hcs.symm))
      | cons d more =>
        obtain ⟨rfl, rfl⟩ := List.cons.inj hcs
        rw [List.append_cons] at hword
        exact ⟨more, t, rest, later, rfl, (List.forall_mem_cons.1 hmore).2, hend, hword, h⟩
    · rintro ⟨more, t, rest, later, rfl, hmore, hend, hword, h⟩
      rw [← List.append_cons] at hword
      exact ⟨c :: more, t, rest, later, rfl, List.forall_mem_cons.2 ⟨hc, hmore⟩, hend, hword, h⟩
  · constructor
    · rintro ⟨more, t, rest, later, hcs, hmore, hend, hword, h, rfl⟩
      cases more with
      | nil =>
        rw [List.append_nil] at hword
        rw [List.nil_append] at hcs
        rw [← hcs, reads_between] at h
        obtain ⟨next, out, later, hnext, h, rfl⟩ := h
        rw [hword, hnext]
        exact continues_some.2 ⟨later, h, rfl⟩
      | cons d more =>
        obtain ⟨rfl, -⟩ := List.cons.inj hcs
        exact absurd (hmore c List.mem_cons_self) hc
    · rintro ⟨next, out, later, hnext, h, rfl⟩
      obtain ⟨t, hword, hnext⟩ := Option.bind_eq_some_iff.1 hnext
      obtain ⟨⟨next, out⟩, hstart, hnext⟩ := Option.map_eq_some_iff.1 hnext
      cases hnext
      have hrest : Spells (c :: cs) (out ++ later) :=
        reads_between.2 ⟨next, out, later, hstart, h, rfl⟩
      rw [← List.append_nil letters] at hword
      exact ⟨[], t, c :: cs, _, rfl, by simp, by simpa [EndsWord] using hc, hword, hrest, rfl⟩

theorem reads_text :
    ReadsText units (c :: cs) ts ↔ Continues (step (.text units) c) cs ts := by
  rw [step]
  split_ifs with hquote hslash hcontrol
  · rw [hquote, readsText_quote]
    cases charsOf? units with
    | none => simp [not_continues_none]
    | some text => simp [continues_some, Reads]
  · rw [hslash, continues_silent, Reads]
  · rw [readsText_raw hquote hslash]
    exact iff_of_false (fun h => absurd h.1 (by omega)) not_continues_none
  · rw [readsText_raw hquote hslash, continues_silent, Reads]
    exact and_iff_right (by omega)

theorem reads_escape :
    ReadsText units ('\\' :: c :: cs) ts ↔ Continues (step (.escape units) c) cs ts := by
  rw [step]
  split_ifs with hc
  · rw [hc, readsText_hex, continues_silent]
  · rw [readsText_short hc]
    cases shortEscape? c with
    | none => simp [not_continues_none]
    | some escaped => simp [continues_silent, Reads]

theorem reads_hex_cons {left value : Nat} : Reads (.hex units left value) (c :: cs) ts ↔
    ∃ digit, hexDigit? c = some digit ∧ ∃ digits unit rest, cs = digits ++ rest ∧
      digits.length = left ∧ hexFrom? (16 * value + digit) digits = some unit ∧
      ReadsText (units ++ [unit]) rest ts := by
  constructor
  · rintro ⟨digits, unit, rest, hcs, hlength, hdigits, h⟩
    obtain ⟨d, digits, rfl⟩ := List.exists_cons_of_length_eq_add_one hlength
    obtain ⟨rfl, rfl⟩ := List.cons.inj hcs
    obtain ⟨digit, hdigit, hdigits⟩ := Option.bind_eq_some_iff.1 hdigits
    exact ⟨digit, hdigit, digits, unit, rest, rfl, Nat.succ.inj hlength, hdigits, h⟩
  · rintro ⟨digit, hdigit, digits, unit, rest, rfl, hlength, hdigits, h⟩
    refine ⟨c :: digits, unit, rest, rfl, congrArg (· + 1) hlength, ?_, h⟩
    rw [hexFrom?, hdigit, Option.bind_some, hdigits]

theorem reads_hex {left value : Nat} : Reads (.hex units left value) (c :: cs) ts ↔
    Continues (step (.hex units left value) c) cs ts := by
  rw [reads_hex_cons, step]
  cases hexDigit? c with
  | none => simp [not_continues_none]
  | some digit =>
    cases left with
    | zero =>
      refine Iff.trans ?_ continues_silent.symm
      constructor
      · rintro ⟨_, ⟨⟩, digits, unit, rest, rfl, hlength, hdigits, h⟩
        obtain rfl := List.eq_nil_of_length_eq_zero hlength
        cases hdigits
        exact h
      · exact fun h => ⟨digit, rfl, [], _, cs, rfl, rfl, rfl, h⟩
    | succ left => simp [continues_silent, Reads]

theorem spells_nil : Spells [] ts ↔ ts = [] := by
  constructor
  · intro h
    generalize hnil : [] = cs at h
    cases h with
    | done => rfl
    | word hword =>
      exact absurd (List.append_eq_nil_iff.1 hnil.symm).1 (ne_nil_of_wordToken? hword)
    | _ => cases hnil
  · rintro rfl
    exact .done

theorem reads_nil {s : Scan} : s.Reads [] ts ↔ s.finish = some ts := by
  cases s with
  | between => rw [Reads, spells_nil, finish, Option.some.injEq, eq_comm]
  | word letters =>
    constructor
    · rintro ⟨more, t, rest, later, hcs, -, -, hword, h, rfl⟩
      obtain ⟨rfl, rfl⟩ := List.append_eq_nil_iff.1 hcs.symm
      obtain rfl := spells_nil.1 h
      rw [List.append_nil] at hword
      rw [finish, hword]
      rfl
    · intro h
      obtain ⟨t, hword, rfl⟩ := Option.map_eq_some_iff.1 h
      rw [← List.append_nil letters] at hword
      exact ⟨[], t, [], [], rfl, by simp, by simp [EndsWord], hword, .done, rfl⟩
  | text units => exact iff_of_false not_readsText_nil (by simp [finish])
  | escape units =>
    refine iff_of_false ?_ (by simp [finish])
    rintro ⟨quoted, more, text, rest, later, hcs, hquoted, -⟩
    cases hquoted <;> simp_all
  | hex units left value =>
    refine iff_of_false ?_ (by simp [finish])
    rintro ⟨digits, unit, rest, hcs, hlength, -⟩
    obtain ⟨d, digits, rfl⟩ := List.exists_cons_of_length_eq_add_one hlength
    cases hcs

/-- **One step.**  A state reads a text exactly if the state after the first character reads what is
left of it. -/
theorem reads_cons {s : Scan} : s.Reads (c :: cs) ts ↔ Continues (s.step c) cs ts := by
  cases s with
  | between => exact reads_between
  | word letters => exact reads_word
  | text units => exact reads_text
  | escape units => exact reads_escape
  | hex units left value => exact reads_hex

end

/-- **A whole run.**  What a state reads is all that a run from there finds. -/
theorem run_eq_some_iff {s : Scan} {cs : List Char} {ts : List Token} :
    s.run cs = some ts ↔ s.Reads cs ts := by
  induction cs generalizing s ts with
  | nil => exact reads_nil.symm
  | cons c cs ih =>
    rw [reads_cons, run, Option.bind_eq_some_iff]
    constructor
    · rintro ⟨⟨next, out⟩, hstep, h⟩
      obtain ⟨later, hrun, rfl⟩ := Option.map_eq_some_iff.1 h
      exact ⟨next, out, later, hstep, ih.1 hrun, rfl⟩
    · rintro ⟨next, out, later, hstep, h, rfl⟩
      exact ⟨(next, out), hstep, Option.map_eq_some_iff.2 ⟨later, ih.2 h, rfl⟩⟩

/-- blanks are skipped, and a surrogate pair is one character -/
example : between.run "[\t10 , \"\\ud83d\\ude00\\/\"]".toList =
    some [.openList, .number 10, .comma, .text "😀/", .closeList] := by
  decide +kernel

end Scan
end Json
end ProjectAudit
