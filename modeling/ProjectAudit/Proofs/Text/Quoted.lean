import Mathlib.Data.List.Basic
import Mathlib.Tactic.SplitIfs
import ProjectAudit.Proofs.Json.Grammar
import ProjectAudit.Text.Quoted

/-!
# Quoted texts are read back

A reader of quoted texts undoes the escapes one character after the other, whatever characters the
text has (`unquote?_quote`), so different texts have different quoted forms.  All that stands in a
quoted form is visible (`isVisibleAlone_of_mem_quote`), and so no line ends in it.
-/

namespace ProjectAudit.Text
open Json (hexDigit? hexFrom?)

/-! ## reading -/

/-- where the reader of a quoted text stands -/
inductive Unquoting where
  | plain
  /-- behind a backslash -/
  | escape
  /-- before the braces around a code point -/
  | brace
  /-- inside the braces, behind the digits of this number -/
  | code (value : Nat)

/-- the character that is written as this one behind a backslash -/
def escaped? : Char → Option Char
  | '"' => some '"'
  | '\\' => some '\\'
  | 't' => some '\t'
  | 'n' => some '\n'
  | 'r' => some '\r'
  | '0' => some '\x00'
  | _ => none

/-- the text up to the closing quote, which nothing follows -/
def unquoteFrom : Unquoting → List Char → Option (List Char)
  | _, [] => none
  | .plain, c :: cs =>
    if c = '"' then if cs = [] then some [] else none
    else if c = '\\' then unquoteFrom .escape cs
    else (unquoteFrom .plain cs).map (c :: ·)
  | .escape, c :: cs =>
    if c = 'u' then unquoteFrom .brace cs
    else (escaped? c).bind fun d => (unquoteFrom .plain cs).map (d :: ·)
  | .brace, c :: cs => if c = '\x7b' then unquoteFrom (.code 0) cs else none
  | .code value, c :: cs =>
    if c = '\x7d' then (unquoteFrom .plain cs).map (Char.ofNat value :: ·)
    else (hexDigit? c).bind fun digit => unquoteFrom (.code (16 * value + digit)) cs

def unquote? : List Char → Option (List Char)
  | [] => none
  | c :: cs => if c = '"' then unquoteFrom .plain cs else none

/-! ## hexadecimal digits -/

theorem hexDigit?_digitChar : ∀ digit < 16, hexDigit? (Nat.digitChar digit) = some digit := by
  decide

theorem hexFrom?_concat {value number digit : Nat} {digits : List Char} {c : Char}
    (h : hexFrom? value digits = some number) (hc : hexDigit? c = some digit) :
    hexFrom? value (digits ++ [c]) = some (16 * number + digit) := by
  induction digits generalizing value with
  | nil =>
    cases h
    rw [List.nil_append, hexFrom?, hc]
    rfl
  | cons d digits ih =>
    obtain ⟨first, hd, h⟩ := Option.bind_eq_some_iff.1 h
    rw [List.cons_append, hexFrom?, hd]
    exact ih h

theorem hexFrom?_toDigits (n : Nat) : hexFrom? 0 (Nat.toDigits 16 n) = some n := by
  induction n using Nat.strongRecOn with
  | _ n ih =>
    by_cases hlt : n < 16
    · rw [Nat.toDigits_of_lt_base hlt]
      have h : hexFrom? 0 ([] ++ [Nat.digitChar n]) = some (16 * 0 + n) :=
        hexFrom?_concat rfl (hexDigit?_digitChar n hlt)
      rwa [Nat.mul_zero, Nat.zero_add] at h
    · have hlast := hexDigit?_digitChar (n % 16) (Nat.mod_lt n (by decide))
      rw [Nat.toDigits_of_base_le (by decide) (by omega),
        hexFrom?_concat (ih (n / 16) (by omega)) hlast, Nat.div_add_mod]

theorem exists_digitChar_of_mem_toDigits {n : Nat} {c : Char} (h : c ∈ Nat.toDigits 16 n) :
    ∃ digit < 16, c = Nat.digitChar digit := by
  induction n using Nat.strongRecOn with
  | _ n ih =>
    by_cases hlt : n < 16
    · rw [Nat.toDigits_of_lt_base hlt, List.mem_singleton] at h
      exact ⟨n, hlt, h⟩
    · rw [Nat.toDigits_of_base_le (by decide) (by omega), List.mem_append, List.mem_singleton] at h
      rcases h with h | h
      · exact ih (n / 16) (by omega) h
      · exact ⟨n % 16, Nat.mod_lt n (by decide), h⟩

/-! ## reading back -/

section
variable {cs : List Char}

/-- the closing brace is no digit, so it ends the number -/
theorem unquoteFrom_code {value number : Nat} {digits : List Char}
    (h : hexFrom? value digits = some number) :
    unquoteFrom (.code value) (digits ++ '\x7d' :: cs) =
      (unquoteFrom .plain cs).map (Char.ofNat number :: ·) := by
  induction digits generalizing value with
  | nil =>
    cases h
    rw [List.nil_append, unquoteFrom, if_pos rfl]
  | cons d digits ih =>
    obtain ⟨digit, hd, h⟩ := Option.bind_eq_some_iff.1 h
    have hne : d ≠ '\x7d' := by
      rintro rfl
      cases hd
    rw [List.cons_append, unquoteFrom, if_neg hne, hd, Option.bind_some, ih h]

theorem unquoteFrom_hexEscape (c : Char) :
    unquoteFrom .plain (hexEscape c ++ cs) = (unquoteFrom .plain cs).map (c :: ·) := by
  have hcode : unquoteFrom (.code 0) (Nat.toDigits 16 c.toNat ++ '\x7d' :: cs) =
      (unquoteFrom .plain cs).map (Char.ofNat c.toNat :: ·) :=
    unquoteFrom_code (hexFrom?_toDigits c.toNat)
  rw [Char.ofNat_toNat] at hcode
  rw [← hcode, hexEscape, List.append_assoc, List.append_assoc]
  rfl

theorem unquoteFrom_escaped {e c : Char} (h : escaped? e = some c) :
    unquoteFrom .plain ('\\' :: e :: cs) = (unquoteFrom .plain cs).map (c :: ·) := by
  have hne : e ≠ 'u' := by
    rintro rfl
    cases h
  rw [unquoteFrom, if_neg (by decide), if_pos rfl, unquoteFrom, if_neg hne, h, Option.bind_some]

/-- **One character.**  What stands for a character is read as that character, and no more is. -/
theorem unquoteFrom_quoteChar (c : Char) :
    unquoteFrom .plain (quoteChar c ++ cs) = (unquoteFrom .plain cs).map (c :: ·) := by
  unfold quoteChar
  split_ifs with hquote hslash ht hn hr hnull hvisible
  -- the six characters with a short escape
  iterate 6 exact unquoteFrom_escaped (by subst c; rfl)
  · rw [List.singleton_append, unquoteFrom, if_neg hquote, if_neg hslash]
  · exact unquoteFrom_hexEscape c

end

theorem unquote?_quote (cs : List Char) : unquote? (quote cs) = some cs := by
  rw [quote, List.cons_append, unquote?, if_pos rfl]
  induction cs with
  | nil => rfl
  | cons c cs ih =>
    rw [List.flatMap_cons, List.append_assoc, unquoteFrom_quoteChar, ih, Option.map_some]

theorem quote_injective : Function.Injective quote := by
  intro cs ds h
  have hread := unquote?_quote cs
  rw [h, unquote?_quote, Option.some.injEq] at hread
  exact hread.symm

/-! ## what stands in a quoted text -/

/-- the characters that escapes are made of, other than the digits of a code point -/
def escapeMarks : List Char := ['"', '\\', 't', 'n', 'r', '0', 'u', '\x7b', '\x7d']

theorem isVisibleAlone_escapeMarks : ∀ c ∈ escapeMarks, isVisibleAlone c = true := by
  have h : escapeMarks.all isVisibleAlone = true := by decide +kernel
  exact List.all_eq_true.1 h

theorem isVisibleAlone_digitChar : ∀ digit < 16, isVisibleAlone (Nat.digitChar digit) = true := by
  decide +kernel

theorem isVisibleAlone_of_mem_hexEscape {c x : Char} (hx : x ∈ hexEscape c) :
    isVisibleAlone x = true := by
  have hopen : ['\\', 'u', '\x7b'] ⊆ escapeMarks := by decide
  have hclose : ['\x7d'] ⊆ escapeMarks := by decide
  rw [hexEscape, List.mem_append, List.mem_append] at hx
  rcases hx with (hx | hx) | hx
  · exact isVisibleAlone_escapeMarks x (hopen hx)
  · obtain ⟨digit, hlt, rfl⟩ := exists_digitChar_of_mem_toDigits hx
    exact isVisibleAlone_digitChar digit hlt
  · exact isVisibleAlone_escapeMarks x (hclose hx)

theorem isVisibleAlone_of_mem_quoteChar {c x : Char} (hx : x ∈ quoteChar c) :
    isVisibleAlone x = true := by
  have hshort : ∀ e ∈ escapeMarks, x ∈ ['\\', e] → isVisibleAlone x = true := by
    intro e he hx
    rcases List.mem_cons.1 hx with rfl | hx
    · exact isVisibleAlone_escapeMarks _ (by decide)
    · rw [List.mem_singleton.1 hx]
      exact isVisibleAlone_escapeMarks e he
  unfold quoteChar at hx
  split_ifs at hx with hquote hslash ht hn hr hnull hvisible
  iterate 6 exact hshort _ (by decide) hx
  · rw [List.mem_singleton.1 hx]
    exact hvisible
  · exact isVisibleAlone_of_mem_hexEscape hx

theorem isVisibleAlone_of_mem_quote {cs : List Char} {x : Char} (hx : x ∈ quote cs) :
    isVisibleAlone x = true := by
  rw [quote, List.cons_append, List.mem_cons, List.mem_append, List.mem_singleton] at hx
  rcases hx with rfl | hx | rfl
  · exact isVisibleAlone_escapeMarks _ (by decide)
  · obtain ⟨c, -, hx⟩ := List.mem_flatMap.1 hx
    exact isVisibleAlone_of_mem_quoteChar hx
  · exact isVisibleAlone_escapeMarks _ (by decide)

/-- what ends a line in one sense or another: the line feed, the line tabulation, the form feed, the
carriage return, the next line, and the separators of lines and of paragraphs -/
def lineBreaks : List Char := ['\n', '\x0b', '\x0c', '\r', '\u0085', '\u2028', '\u2029']

theorem isVisibleAlone_lineBreaks : ∀ c ∈ lineBreaks, isVisibleAlone c = false := by
  have h : lineBreaks.any isVisibleAlone = false := by decide +kernel
  simpa only [List.any_eq_false, Bool.not_eq_true] using h

theorem not_mem_quote_of_lineBreak {cs : List Char} {c : Char} (hc : c ∈ lineBreaks) :
    c ∉ quote cs := by
  intro h
  have hvisible := isVisibleAlone_of_mem_quote h
  rw [isVisibleAlone_lineBreaks c hc] at hvisible
  cases hvisible

/-- a quote, a line feed, a mark that is drawn on the letter before it, and a letter -/
example : quote ['"', '\n', '\u0301', 'é'] = "\"\\\"\\n\\u\x7b301\x7dé\"".toList := by
  decide +kernel

end ProjectAudit.Text
