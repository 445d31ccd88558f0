import Mathlib.Data.List.Induction
import ProjectAudit.Proofs.Disk.Walk

/-!
# Entries by the bytes of their names

A directory names its entries by bytes, which need not be a text.  `Tree.HasFile` says that a
directory holds a file under such a name.  Where the name is a text, the file is the entry that is
listed and looked up (`Tree.hasEntry_of_hasFile`), and the bytes of the name end in an extension
exactly if its characters do (`utf8_isSuffix_iff`).  The path of a directory and the name of a file
in it make a path to the file (`Tree.resolve_join`).
-/

namespace ProjectAudit

/-! ## bytes of a text -/

def utf8 (cs : List Char) : List UInt8 := cs.flatMap String.utf8EncodeChar

theorem toList_data_toUTF8 (s : String) : s.toUTF8.data.toList = utf8 s.toList := by
  have h := String.toByteArray_ofList (l := s.toList)
  rw [String.ofList_toList] at h
  rw [String.toUTF8_eq_toByteArray, h]
  exact List.toList_data_toByteArray

theorem utf8_append (a b : List Char) : utf8 (a ++ b) = utf8 a ++ utf8 b := List.flatMap_append

theorem utf8_singleton (c : Char) : utf8 [c] = String.utf8EncodeChar c := List.flatMap_singleton ..

theorem utf8Size_of_lt {c : Char} (h : c.toNat < 0x80) : c.utf8Size = 1 := by
  rw [Char.utf8Size_eq_one_iff, UInt32.le_iff_toNat_le]
  have hv : c.val.toNat < 0x80 := h
  show c.val.toNat ≤ 127
  omega

/-- the byte of a character of ASCII is not the last one of any other character -/
theorem eq_of_getLast?_utf8EncodeChar {c d : Char} (hd : d.toNat < 0x80)
    (h : (String.utf8EncodeChar c).getLast? = some d.val.toUInt8) : c = d := by
  have hdn : d.val.toUInt8.toNat = d.toNat := by
    rw [UInt32.toNat_toUInt8]
    exact Nat.mod_eq_of_lt (Nat.lt_trans hd (by decide))
  have hhigh : ∀ x : UInt8, x &&& 0x3f ||| 0x80 ≠ d.val.toUInt8 := by
    intro x hx
    have hle : 0x80 ≤ (x &&& 0x3f ||| 0x80).toNat := by
      rw [UInt8.toNat_or]
      exact Nat.right_le_or
    rw [hx, hdn] at hle
    omega
  rcases c.utf8Size_eq with h1 | h2 | h3 | h4
  · rw [String.utf8EncodeChar_eq_singleton h1] at h
    have hn : c.val.toUInt8.toNat = d.val.toUInt8.toNat := congrArg UInt8.toNat (Option.some.inj h)
    have hc : c.val.toNat ≤ 127 := UInt32.le_iff_toNat_le.1 (Char.utf8Size_eq_one_iff.1 h1)
    rw [hdn, UInt32.toNat_toUInt8, Nat.mod_eq_of_lt (by omega)] at hn
    exact Char.ext (UInt32.toNat_inj.1 hn)
  · rw [String.utf8EncodeChar_eq_cons_cons h2] at h
    exact absurd (Option.some.inj h) (hhigh _)
  · rw [String.utf8EncodeChar_eq_cons_cons_cons h3] at h
    exact absurd (Option.some.inj h) (hhigh _)
  · rw [String.utf8EncodeChar_eq_cons_cons_cons_cons h4] at h
    exact absurd (Option.some.inj h) (hhigh _)

theorem exists_concat_of_utf8 {d : Char} (hd : d.toNat < 0x80) {cs : List Char} {bs : List UInt8}
    (h : utf8 cs = bs ++ utf8 [d]) : ∃ before, cs = before ++ [d] ∧ utf8 before = bs := by
  have hbyte := utf8_singleton d
  rw [String.utf8EncodeChar_eq_singleton (utf8Size_of_lt hd)] at hbyte
  induction cs using List.reverseRecOn with
  | nil =>
    rw [hbyte] at h
    cases bs <;> cases h
  | append_singleton before c =>
    have hl := congrArg List.getLast? h
    rw [utf8_append, utf8_singleton, hbyte, List.getLast?_concat,
      List.getLast?_append, List.getLast?_eq_some_getLast String.utf8EncodeChar_ne_nil,
      Option.some_or, ← List.getLast?_eq_some_getLast] at hl
    obtain rfl := eq_of_getLast?_utf8EncodeChar hd hl
    rw [utf8_append] at h
    exact ⟨before, rfl, List.append_cancel_right h⟩

theorem exists_append_of_utf8 {ext : List Char} (he : ∀ d ∈ ext, d.toNat < 0x80)
    {cs : List Char} {bs : List UInt8} (h : utf8 cs = bs ++ utf8 ext) :
    ∃ before, cs = before ++ ext ∧ utf8 before = bs := by
  induction ext using List.reverseRecOn generalizing cs with
  | nil => exact ⟨cs, (List.append_nil cs).symm, h.trans (List.append_nil bs)⟩
  | append_singleton ext d ih =>
    rw [utf8_append, ← List.append_assoc] at h
    obtain ⟨rest, rfl, hr⟩ := exists_concat_of_utf8 (he d (by simp)) h
    obtain ⟨before, rfl, hb⟩ := ih (fun c hc => he c (List.mem_append_left _ hc)) hr
    exact ⟨before, List.append_assoc _ _ _, hb⟩

/-- for an extension in ASCII -/
theorem utf8_isSuffix_iff {ext : List Char} (he : ext.all (·.toNat < 0x80) = true)
    {cs : List Char} : utf8 ext <:+ utf8 cs ↔ ext <:+ cs := by
  have he : ∀ d ∈ ext, d.toNat < 0x80 := fun d hd =>
    of_decide_eq_true (List.all_eq_true.1 he d hd)
  constructor
  · rintro ⟨bs, h⟩
    obtain ⟨before, rfl, -⟩ := exists_append_of_utf8 he h.symm
    exact List.suffix_append _ _
  · rintro ⟨before, rfl⟩
    rw [utf8_append]
    exact List.suffix_append _ _

theorem utf8_toList_inj {s s' : String} : utf8 s.toList = utf8 s'.toList ↔ s = s' := by
  rw [← toList_data_toUTF8, ← toList_data_toUTF8, Array.toList_inj]
  refine ⟨fun h => String.toByteArray_inj.1 (ByteArray.ext h), ?_⟩
  rintro rfl
  rfl

/-- the bytes of a text are no name that is no text -/
theorem ne_utf8_of_isRawName {bytes : List UInt8} (h : IsRawName bytes) (s : String) :
    bytes ≠ utf8 s.toList := by
  rintro rfl
  rw [← toList_data_toUTF8] at h
  exact h.1 s.isValidUTF8

theorem fromUTF8?_toUTF8 (s : String) : String.fromUTF8? s.toUTF8 = some s := by
  unfold String.fromUTF8?
  exact dif_pos s.isValidUTF8

theorem eq_toUTF8_of_fromUTF8? {content : ByteArray} {text : String}
    (h : String.fromUTF8? content = some text) : content = text.toUTF8 := by
  unfold String.fromUTF8? at h
  split at h
  · cases h
    rfl
  · cases h

/-! ## files of a directory -/

def FileName.bytes : FileName → List UInt8
  | .text name _ => utf8 name.toList
  | .undecoded bytes _ => bytes

theorem FileName.length_bytes (name : FileName) : name.bytes.length = name.size := by
  cases name with
  | undecoded bytes _ => rfl
  | text name _ =>
    show (utf8 name.toList).length = name.toByteArray.size
    rw [← toList_data_toUTF8]
    rfl

namespace Tree

/-- the directory holds a file of this name once all links are followed, and the path of the file is
no longer than a path may be; this is what there is to see for one who gives the path in bytes -/
def HasFile (t : Tree) (cwd : Place) (directory : String) (name : FileName) : Prop :=
  directory.utf8ByteSize + 1 + name.bytes.length ≤ maxPathSize ∧
    ∃ r content, route directory = .ok r ∧
      t.walk maxLinks (if r.isAbsolute then t.top else cwd) (r.steps ++ [.into name]) =
        .ok (.file content)

theorem route_join_of_le {directory n : String} (hn : IsEntryName n)
    (hd : Path.NeedsSlash directory) {r : Route} (h : route directory = .ok r)
    (hl : directory.utf8ByteSize + 1 + n.utf8ByteSize ≤ maxPathSize) :
    route (Path.join directory n) = .ok ⟨r.isAbsolute, r.steps ++ [.into (.text n hn)]⟩ := by
  rw [Path.join_of_needsSlash hd hn.isAbsolute_eq_false]
  unfold route at h
  split at h
  · cases h
  · rename_i hz
    split at h
    · cases h
    · split at h
      · cases h
      · cases h
        have hz' : '\x00' ∉ (directory ++ "/" ++ n).toList := by
          simp only [String.toList_append, List.mem_append, not_or]
          exact ⟨⟨hz, by decide⟩, hn.2.2.2.2⟩
        have hl' : ¬ maxPathSize < (directory ++ "/" ++ n).utf8ByteSize := by
          have h1 : "/".utf8ByteSize = 1 := by decide
          rw [String.utf8ByteSize_append, String.utf8ByteSize_append, h1]
          omega
        have hne : directory ++ "/" ++ n ≠ "" := by
          intro he
          have ht := congrArg String.toList he
          simp at ht
        have ha := Path.isAbsolute_append hd.ne_nil ("/" ++ n)
        rw [← String.append_assoc] at ha
        rw [route, if_neg hz', if_neg hl', if_neg hne, ← hn.steps_join hd]
        exact congrArg (fun a => Except.ok (Route.mk a _)) ha

/-- the rest of a walk starts where its first steps lead, with some links left to follow -/
theorem exists_walk_append {t : Tree} {links : Nat} {here place : Place} {a : List Step}
    (h : t.walk links here a = .ok (.directory place)) (b : List Step) :
    ∃ links', t.walk links here (a ++ b) = t.walk links' place b := by
  induction links generalizing here a with
  | zero =>
    rw [walk] at h
    split at h
    · cases h
    · rename_i found hp
      cases h
      exact ⟨0, walk_congr (by rw [advance_append, hp])⟩
    · cases h
  | succ links ih =>
    rw [walk] at h
    split at h
    · cases h
    · rename_i found hp
      cases h
      exact ⟨links + 1, walk_congr (by rw [advance_append, hp])⟩
    · rename_i directory target rest hl
      have hlb : advance here (a ++ b) = .ok (.atLink directory target (rest ++ b)) := by
        rw [advance_append, hl]
      rw [walk_of_atLink hlb]
      cases hr : route target with
      | error e => simp [hr] at h
      | ok r =>
        simp only [hr] at h ⊢
        rw [← List.append_assoc]
        exact ih h

/-- the path of a file below a directory leads to the file -/
theorem resolve_join {t : Tree} {cwd place : Place} {directory n : String} {content : ByteArray}
    (hn : IsEntryName n) (hd : Path.NeedsSlash directory)
    (hp : t.resolve cwd directory = .ok (.directory place))
    (hl : directory.utf8ByteSize + 1 + n.utf8ByteSize ≤ maxPathSize)
    (hs : n.utf8ByteSize ≤ maxNameSize)
    (hf : place.entries.lookup (.text n hn) = some (.file content)) :
    t.resolve cwd (Path.join directory n) = .ok (.file content) := by
  unfold resolve at hp
  split at hp
  · cases hp
  · rename_i r hr
    obtain ⟨links, hw⟩ := exists_walk_append hp [.into (.text n hn)]
    have hsize : ¬ maxNameSize < (FileName.text n hn).size := Nat.not_lt.2 hs
    rw [resolve, route_join_of_le hn hd hr hl]
    show t.walk maxLinks _ (r.steps ++ [.into (.text n hn)]) = _
    rw [hw, walk, advance, if_neg hsize, hf]
    rfl

theorem read_of_resolve {t : Tree} {cwd : Place} {path text : String}
    (h : t.resolve cwd path = .ok (.file text.toUTF8)) : (t.disk cwd).read path = .ok text := by
  show t.resolve cwd path >>= Found.text = .ok text
  rw [h]
  show Found.text (.file text.toUTF8) = .ok text
  rw [Found.text, fromUTF8?_toUTF8]

/-- what is read is the text of a file, whose bytes are those of the text -/
theorem read_eq_ok_iff {t : Tree} {cwd : Place} {path text : String} :
    (t.disk cwd).read path = .ok text ↔ t.resolve cwd path = .ok (.file text.toUTF8) := by
  refine ⟨fun h => ?_, read_of_resolve⟩
  change t.resolve cwd path >>= Found.text = .ok text at h
  cases hr : t.resolve cwd path with
  | error e =>
    rw [hr] at h
    cases h
  | ok found =>
    rw [hr] at h
    change found.text = .ok text at h
    cases found with
    | directory place => cases h
    | file content =>
      rw [Found.text] at h
      cases hd : String.fromUTF8? content with
      | none =>
        rw [hd] at h
        cases h
      | some decoded =>
        rw [hd] at h
        cases h
        rw [eq_toUTF8_of_fromUTF8? hd]

/-- an entry that is listed is one of the directory -/
theorem mem_of_hasEntry {t : Tree} {cwd place : Place} {directory n : String} {kind : FileKind}
    (hp : t.resolve cwd directory = .ok (.directory place))
    (h : (t.disk cwd).HasEntry directory n kind) :
    ∃ isName, FileName.text n isName ∈ place.entries.map (·.1) := by
  obtain ⟨listing, isName, hl, hn, -⟩ := h
  rw [list_of_resolve hp] at hl
  cases hl
  exact ⟨isName, mem_distinct.1 hn⟩

/-- a file whose name is a text is listed and can be looked up -/
theorem hasEntry_of_hasFile {t : Tree} {cwd : Place} {directory n : String} {hn : IsEntryName n}
    (hd : Path.NeedsSlash directory) (h : t.HasFile cwd directory (.text n hn)) :
    (t.disk cwd).HasEntry directory n .regular := by
  obtain ⟨hl, r, content, hr, hw⟩ := h
  rw [FileName.length_bytes] at hl
  refine hasEntry_disk hn hd (stat_eq_ok_iff.2 ⟨.file content, ?_, rfl⟩)
  rw [resolve, route_join_of_le hn hd hr hl]
  exact hw

end Tree

end ProjectAudit
