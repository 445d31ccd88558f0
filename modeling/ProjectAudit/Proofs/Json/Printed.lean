import Mathlib.Data.List.Basic
import ProjectAudit.Proofs.Json.Parse

/-!
# Printed values

The text that a value is printed as is JSON for it (`isWrittenAs_pretty`), and so it is read as the
same value again (`read?_pretty`).  In a text that is JSON, control characters stand between the
tokens only (`Spells.isGap_or_le_of_mem`).
-/

namespace ProjectAudit
namespace Json

/-! ## numbers -/

theorem digitChar_ne_zero : ∀ n < 10, n ≠ 0 → Nat.digitChar n ≠ '0' := by
  decide

theorem head?_toDigits {n : Nat} (hn : n ≠ 0) : (Nat.toDigits 10 n).head?.any (· ≠ '0') := by
  induction n using Nat.strongRecOn with
  | _ n ih =>
    by_cases hlt : n < 10
    · rw [Nat.toDigits_of_lt_base hlt]
      simp [digitChar_ne_zero n hlt hn]
    · rw [Nat.toDigits_of_base_le (by omega) (by omega),
        List.head?_append_of_ne_nil _ Nat.toDigits_ne_nil]
      exact ih (n / 10) (by omega) (by omega)

theorem isDigit_of_mem_toDigits {n : Nat} : ∀ c ∈ Nat.toDigits 10 n, c.isDigit := fun _ hc =>
  Nat.isDigit_of_mem_toDigits (by omega) (by omega) hc

theorem numeral?_toDigits (n : Nat) : numeral? (Nat.toDigits 10 n) = some n := by
  by_cases hn : n = 0
  · subst n
    rfl
  · have hdigits := List.all_eq_true.2 (isDigit_of_mem_toDigits (n := n))
    rw [numeral?, hdigits, head?_toDigits hn, Bool.or_true, Bool.and_true, if_pos rfl,
      Nat.ofDigitChars_ten_toDigits]

theorem wordToken?_toDigits (n : Nat) : wordToken? (Nat.toDigits 10 n) = some (.number n) := by
  have hdigit := isDigit_of_mem_toDigits (n := n)
  have htrue : Nat.toDigits 10 n ≠ ['t', 'r', 'u', 'e'] := by
    intro h
    rw [h] at hdigit
    exact absurd (hdigit 't' List.mem_cons_self) (by decide)
  have hfalse : Nat.toDigits 10 n ≠ ['f', 'a', 'l', 's', 'e'] := by
    intro h
    rw [h] at hdigit
    exact absurd (hdigit 'f' List.mem_cons_self) (by decide)
  rw [wordToken?, if_neg htrue, if_neg hfalse, numeral?_toDigits]
  rfl

/-! ## texts -/

theorem hexFrom?_controlEscape : ∀ n < 0x20,
    hexFrom? 0 ['0', '0', Nat.digitChar (n / 16), Nat.digitChar (n % 16)] = some n := by
  decide

theorem Quotes.escapeChar {c : Char} {cs : List Char} {units : List Nat} (h : Quotes cs units) :
    Quotes (escapeChar c ++ cs) (c.toNat :: units) := by
  unfold Json.escapeChar
  split_ifs with hquote hslash hb hf hn hr ht hcontrol
  -- the seven characters with a short escape
  iterate 7 exact .short (by subst c; rfl) h
  · exact .hex rfl (hexFrom?_controlEscape _ hcontrol) h
  · exact .raw (by omega) hquote hslash h

theorem quotes_escape (cs : List Char) : Quotes (cs.flatMap escapeChar) (cs.map (·.toNat)) := by
  induction cs with
  | nil => exact .done
  | cons c cs ih => exact ih.escapeChar

theorem not_isSurrogate (c : Char) :
    isHighSurrogate c.toNat = false ∧ isLowSurrogate c.toNat = false := by
  have hvalid : c.toNat < 0xd800 ∨ 0xdfff < c.toNat ∧ c.toNat < 0x110000 := c.valid
  simp only [isHighSurrogate, isLowSurrogate, Bool.and_eq_false_iff, decide_eq_false_iff_not]
  omega

theorem charsOf?_map_toNat (cs : List Char) : charsOf? (cs.map (·.toNat)) = some cs := by
  induction cs with
  | nil => rfl
  | cons c cs ih =>
    obtain ⟨hhigh, hlow⟩ := not_isSurrogate c
    rw [List.map_cons]
    unfold charsOf?
    rw [hhigh, hlow, if_neg Bool.false_ne_true, if_neg Bool.false_ne_true, ih, Option.map_some,
      Char.ofNat_toNat]

/-! ## the layout -/

section
variable {cs : List Char} {ts : List Token}

theorem endsWord_cons {c : Char} (hc : c.isAlphanum = false) : EndsWord (c :: cs) := by
  simp [EndsWord, hc]

theorem endsWord_newline (depth : Nat) : EndsWord ((newline depth).toList ++ cs) := by
  rw [newline, String.toList_ofList]
  exact endsWord_cons rfl

theorem endsWord_printItems (depth : Nat) (items : List Json) (h : EndsWord cs) :
    EndsWord ((printItems depth items).toList ++ cs) := by
  cases items with
  | nil => exact h
  | cons item items =>
    rw [printItems]
    simp only [String.toList_append]
    exact endsWord_cons rfl

theorem endsWord_printFields (depth : Nat) (fields : List (String × Json)) (h : EndsWord cs) :
    EndsWord ((printFields depth fields).toList ++ cs) := by
  cases fields with
  | nil => exact h
  | cons field fields =>
    rw [printFields]
    simp only [String.toList_append]
    exact endsWord_cons rfl

theorem Spells.newline (depth : Nat) (h : Spells cs ts) :
    Spells ((newline depth).toList ++ cs) ts := by
  have hspaces : ∀ n, Spells (List.replicate n ' ' ++ cs) ts := by
    intro n
    induction n with
    | zero => exact h
    | succ n ih => exact .gap rfl ih
  rw [Json.newline, String.toList_ofList]
  exact .gap rfl (hspaces _)

theorem Spells.printText (s : String) (h : Spells cs ts) :
    Spells ((printText s).toList ++ cs) (.text s :: ts) := by
  have htext := Spells.text (quotes_escape s.toList) (charsOf?_map_toNat s.toList) h
  rw [String.ofList_toList] at htext
  rw [Json.printText, String.toList_ofList, escape]
  simpa using htext

end

mutual

/-- A value is spelled by what it is printed as.  The text after it does not start with a letter or
a digit, because the last digit of a number would not be its last one then. -/
theorem spells_print : ∀ (value : Json) (depth : Nat) {cs : List Char} {ts : List Token},
    EndsWord cs → Spells cs ts → Spells ((value.print depth).toList ++ cs) (value.tokens ++ ts)
  | .bool true, _, _, _, hend, h => by
    rw [print, tokens]
    exact .word rfl hend h
  | .bool false, _, _, _, hend, h => by
    rw [print, tokens]
    exact .word rfl hend h
  | .number n, _, _, _, hend, h => by
    rw [print, tokens, Nat.toString_eq_ofList_toDigits, String.toList_ofList]
    exact .word (wordToken?_toDigits n) hend h
  | .text s, _, _, _, _, h => by
    rw [print, tokens]
    exact h.printText s
  | .list [], _, _, _, _, h => by
    rw [print, tokens]
    exact .mark rfl (.mark rfl h)
  | .list (item :: items), depth, cs, ts, _, h => by
    have hclose : Spells ((newline depth).toList ++ ']' :: cs) (.closeList :: ts) :=
      (Spells.mark rfl h).newline depth
    have hitems := spells_printItems items (depth + 1) (endsWord_newline depth) hclose
    have hitem := spells_print item (depth + 1)
      (endsWord_printItems (depth + 1) items (endsWord_newline depth)) hitems
    have hopen : Spells ('[' :: _) (.openList :: _) := .mark rfl (hitem.newline (depth + 1))
    simpa [print, tokens] using hopen
  | .record [], _, _, _, _, h => by
    rw [print, tokens]
    exact .mark rfl (.mark rfl h)
  | .record ((key, value) :: fields), depth, cs, ts, _, h => by
    have hclose : Spells ((newline depth).toList ++ '\x7d' :: cs) (.closeRecord :: ts) :=
      (Spells.mark rfl h).newline depth
    have hfields := spells_printFields fields (depth + 1) (endsWord_newline depth) hclose
    have hvalue := spells_print value (depth + 1)
      (endsWord_printFields (depth + 1) fields (endsWord_newline depth)) hfields
    have hcolon : Spells (':' :: ' ' :: _) (.colon :: _) := .mark rfl (.gap rfl hvalue)
    have hopen : Spells ('\x7b' :: _) (.openRecord :: _) :=
      .mark rfl ((hcolon.printText key).newline (depth + 1))
    simpa [print, tokens] using hopen

theorem spells_printItems : ∀ (items : List Json) (depth : Nat) {cs : List Char} {ts : List Token},
    EndsWord cs → Spells cs ts →
      Spells ((printItems depth items).toList ++ cs) (itemTokens items ++ ts)
  | [], _, _, _, _, h => by
    rw [printItems, itemTokens]
    exact h
  | item :: items, depth, cs, ts, hend, h => by
    have hitems := spells_printItems items depth hend h
    have hitem := spells_print item depth (endsWord_printItems depth items hend) hitems
    have hcomma : Spells (',' :: _) (.comma :: _) := .mark rfl (hitem.newline depth)
    simpa [printItems, itemTokens] using hcomma

theorem spells_printFields : ∀ (fields : List (String × Json)) (depth : Nat) {cs : List Char}
    {ts : List Token}, EndsWord cs → Spells cs ts →
      Spells ((printFields depth fields).toList ++ cs) (fieldTokens fields ++ ts)
  | [], _, _, _, _, h => by
    rw [printFields, fieldTokens]
    exact h
  | (key, value) :: fields, depth, cs, ts, hend, h => by
    have hfields := spells_printFields fields depth hend h
    have hvalue := spells_print value depth (endsWord_printFields depth fields hend) hfields
    have hcolon : Spells (':' :: ' ' :: _) (.colon :: _) := .mark rfl (.gap rfl hvalue)
    have hcomma : Spells (',' :: _) (.comma :: _) :=
      .mark rfl ((hcolon.printText key).newline depth)
    simpa [printFields, fieldTokens] using hcomma

end

theorem isWrittenAs_pretty (value : Json) : value.IsWrittenAs value.pretty := by
  have hend : EndsWord [] := by simp [EndsWord]
  have h := spells_print value 0 hend .done
  rwa [List.append_nil, List.append_nil] at h

/-- the same text as a line of its own -/
theorem isWrittenAs_line (value : Json) : value.IsWrittenAs (value.pretty ++ "\n") := by
  have hgap : Spells ['\n'] [] := .gap rfl .done
  have h := spells_print value 0 (endsWord_cons rfl) hgap
  rw [List.append_nil] at h
  rw [IsWrittenAs, String.toList_append]
  exact h

theorem read?_pretty (value : Json) : read? value.pretty = some value :=
  read?_eq_some_iff.2 (isWrittenAs_pretty value)

/-- different values are printed differently -/
theorem pretty_inj {value other : Json} : value.pretty = other.pretty ↔ value = other := by
  refine ⟨fun h => ?_, congrArg pretty⟩
  have hread := read?_pretty value
  rw [h, read?_pretty, Option.some.injEq] at hread
  exact hread.symm

/-! ## control characters -/

/-- for each character one can see whether it is a control character -/
theorem le_toNat_of_forall {p : Char → Bool} (hp : ∀ n < 0x20, p (Char.ofNat n) = false) {c : Char}
    (hc : p c = true) : 0x20 ≤ c.toNat := by
  by_contra hlt
  have hfalse := hp _ (Nat.lt_of_not_le hlt)
  rw [Char.ofNat_toNat, hc] at hfalse
  cases hfalse

section
variable {c : Char} {cs : List Char} {ts : List Token}

theorem le_of_hexDigit? {digit : Nat} (h : hexDigit? c = some digit) : 0x20 ≤ c.toNat :=
  le_toNat_of_forall (p := fun c => (hexDigit? c).isSome) (by decide) (Option.isSome_of_eq_some h)

theorem le_of_hexFrom? {digits : List Char} {value number : Nat}
    (h : hexFrom? value digits = some number) : ∀ c ∈ digits, 0x20 ≤ c.toNat := by
  induction digits generalizing value with
  | nil => exact fun _ hc => absurd hc List.not_mem_nil
  | cons d digits ih =>
    rw [hexFrom?, Option.bind_eq_some_iff] at h
    obtain ⟨digit, hd, h⟩ := h
    exact List.forall_mem_cons.2 ⟨le_of_hexDigit? hd, ih h⟩

theorem le_of_shortEscape? {e : Char} (h : shortEscape? e = some c) : 0x20 ≤ e.toNat :=
  le_toNat_of_forall (p := fun e => (shortEscape? e).isSome) (by decide)
    (Option.isSome_of_eq_some h)

theorem le_of_mark? {t : Token} (h : mark? c = some t) : 0x20 ≤ c.toNat :=
  le_toNat_of_forall (p := fun c => (mark? c).isSome) (by decide) (Option.isSome_of_eq_some h)

theorem Quotes.le_of_mem {units : List Nat} (h : Quotes cs units) : ∀ c ∈ cs, 0x20 ≤ c.toNat := by
  induction h with
  | done => exact fun _ hc => absurd hc List.not_mem_nil
  | raw hc _ _ _ ih => exact List.forall_mem_cons.2 ⟨hc, ih⟩
  | short he _ ih =>
    exact List.forall_mem_cons.2 ⟨by decide, List.forall_mem_cons.2 ⟨le_of_shortEscape? he, ih⟩⟩
  | hex _ hdigits _ ih =>
    exact List.forall_mem_cons.2 ⟨by decide, List.forall_mem_cons.2 ⟨by decide,
      List.forall_mem_append.2 ⟨le_of_hexFrom? hdigits, ih⟩⟩⟩

/-- control characters stand between tokens only -/
theorem Spells.isGap_or_le_of_mem (h : Spells cs ts) : ∀ c ∈ cs, isGap c ∨ 0x20 ≤ c.toNat := by
  induction h with
  | done => exact fun _ hc => absurd hc List.not_mem_nil
  | gap hc _ ih => exact List.forall_mem_cons.2 ⟨.inl hc, ih⟩
  | mark hc _ ih => exact List.forall_mem_cons.2 ⟨.inr (le_of_mark? hc), ih⟩
  | word hword _ _ ih =>
    refine List.forall_mem_append.2 ⟨fun c hc => .inr ?_, ih⟩
    exact le_toNat_of_forall (by decide) (Scan.isAlphanum_of_wordToken? hword c hc)
  | text hquoted _ _ ih =>
    refine List.forall_mem_cons.2 ⟨.inr (by decide), List.forall_mem_append.2 ⟨?_, ?_⟩⟩
    · exact fun c hc => .inr (hquoted.le_of_mem c hc)
    · exact List.forall_mem_cons.2 ⟨.inr (by decide), ih⟩

end

end Json
end ProjectAudit
