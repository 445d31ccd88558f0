import ProjectAudit.Disk.Tree
import ProjectAudit.Path
import ProjectAudit.Proofs.Disk.Collect
import ProjectAudit.Proofs.Text.Split

/-!
# Walking to the entry of a directory

A path to an entry is the path of its directory, a slash and the name.  A walk along it comes
through the directory (`Tree.walk_append`), so that the entry is among those that are listed there
(`Tree.hasEntry_disk`).
-/

namespace ProjectAudit
open Text

/-! ## paths -/

namespace Path

/-- what is put below the path is set off by a slash -/
def NeedsSlash (path : String) : Prop := ∃ c, path.toList.getLast? = some c ∧ c ≠ '/'

theorem NeedsSlash.ne_nil {path : String} (h : NeedsSlash path) : path.toList ≠ [] := by
  obtain ⟨c, hc, _⟩ := h
  intro hn
  rw [hn] at hc
  cases hc

theorem NeedsSlash.append {path : String} (h : NeedsSlash path) (before : String) :
    NeedsSlash (before ++ path) := by
  obtain ⟨c, hc, hs⟩ := h
  refine ⟨c, ?_, hs⟩
  rw [String.toList_append, List.getLast?_append, hc, Option.some_or]

theorem isAbsolute_append {a : String} (ha : a.toList ≠ []) (b : String) :
    isAbsolute (a ++ b) = isAbsolute a := by
  unfold isAbsolute
  obtain ⟨c, cs, h⟩ := List.exists_cons_of_ne_nil ha
  rw [String.toList_append, h]
  simp [List.isPrefixOf]

theorem join_of_needsSlash {path below : String} (h : NeedsSlash path)
    (hb : isAbsolute below = false) : join path below = path ++ "/" ++ below := by
  obtain ⟨c, hc, hs⟩ := h
  simp [join, hb, hc, hs]

theorem needsSlash_join {root path : String} (h : NeedsSlash path) (ha : isAbsolute path = false) :
    NeedsSlash (join root path) := by
  unfold join
  rw [ha, if_neg Bool.false_ne_true]
  split
  · exact h.append root
  · exact h.append (root ++ "/")

/-- one step after the other, or both at once -/
theorem join_join {path below : String} (h : NeedsSlash path) (ha : isAbsolute path = false)
    (hb : isAbsolute below = false) (root : String) :
    join (join root path) below = join root (path ++ "/" ++ below) := by
  have ha' : isAbsolute (path ++ "/" ++ below) = false := by
    rw [String.append_assoc, isAbsolute_append h.ne_nil, ha]
  rw [join_of_needsSlash (needsSlash_join h ha) hb]
  simp only [join, ha, ha', Bool.false_eq_true, if_false]
  split <;> simp only [String.append_assoc]

end Path

/-! ## routes -/

namespace IsEntryName
variable {n : String}

theorem isAbsolute_eq_false (h : IsEntryName n) : Path.isAbsolute n = false := by
  unfold Path.isAbsolute
  cases hc : n.toList with
  | nil => rfl
  | cons c cs =>
    have hne : c ≠ '/' := fun he => h.2.2.2.1 (by rw [hc, he]; exact List.mem_cons_self)
    simp [List.isPrefixOf, hne.symm]

theorem ofPiece?_toList (h : IsEntryName n) :
    Step.ofPiece? n.toList = some (.into (.text n h)) := by
  have h1 : n.toList ≠ ['.'] := fun hc => h.2.1 (String.toList_inj.1 hc)
  have h2 : n.toList ≠ ['.', '.'] := fun hc => h.2.2.1 (String.toList_inj.1 hc)
  unfold Step.ofPiece?
  rw [if_neg h1, if_neg h2]
  simp only [String.ofList_toList, h, dite_true]

theorem split_toList (h : IsEntryName n) : split (· = '/') n.toList = [n.toList] := by
  refine split_of_no_sep fun c hc => decide_eq_false fun he => h.2.2.2.1 ?_
  rwa [← he]

theorem getLast?_ne (h : IsEntryName n) : n.toList.getLast? ≠ some '/' :=
  fun hc => h.2.2.2.1 (List.mem_of_getLast? hc)

/-- the route to an entry is that to its directory and one step more -/
theorem steps_join (h : IsEntryName n) {directory : String} (hd : Path.NeedsSlash directory) :
    (Route.ofText (directory ++ "/" ++ n).toList).steps
      = (Route.ofText directory.toList).steps ++ [.into (.text n h)] := by
  obtain ⟨c, hc, hs⟩ := hd
  have ht : (directory ++ "/" ++ n).toList = directory.toList ++ '/' :: n.toList := by simp
  have hne : n.toList ≠ [] := fun he => h.1 (String.toList_inj.1 he)
  have hl : (directory.toList ++ '/' :: n.toList).getLast? ≠ some '/' := by
    rw [List.getLast?_append, List.getLast?_cons, List.getLast?_eq_some_getLast hne]
    simpa [List.getLast?_eq_some_getLast hne] using h.getLast?_ne
  have hl' : directory.toList.getLast? ≠ some '/' := by
    rw [hc]
    exact fun he => hs (Option.some.inj he)
  rw [ht]
  simp only [Route.ofText, if_neg hl, if_neg hl', List.append_nil]
  rw [split_append_sep (by simp), h.split_toList, List.filterMap_append, List.filterMap_cons,
    h.ofPiece?_toList, List.filterMap_nil]

end IsEntryName

namespace Tree

/-- a path that can be asked for leads on from a directory that can be asked for -/
theorem route_join {directory n : String} (hn : IsEntryName n) (hd : Path.NeedsSlash directory)
    {r : Route} (h : route (Path.join directory n) = .ok r) :
    ∃ r', route directory = .ok r' ∧ r.isAbsolute = r'.isAbsolute ∧
      r.steps = r'.steps ++ [.into (.text n hn)] := by
  rw [Path.join_of_needsSlash hd hn.isAbsolute_eq_false] at h
  unfold route at h
  split at h
  · cases h
  · rename_i hz
    split at h
    · cases h
    · rename_i hl
      split at h
      · cases h
      · cases h
        have hz' : '\x00' ∉ directory.toList := fun hm => hz (by simp [hm])
        have hl' : ¬ maxPathSize < directory.utf8ByteSize := by
          simp only [String.utf8ByteSize_append] at hl
          omega
        have hne : directory ≠ "" := fun he => hd.ne_nil (by rw [he]; rfl)
        refine ⟨.ofText directory.toList, ?_, ?_, hn.steps_join hd⟩
        · rw [route, if_neg hz', if_neg hl', if_neg hne]
        · have ha := Path.isAbsolute_append hd.ne_nil ("/" ++ n)
          rw [← String.append_assoc] at ha
          exact ha

/-! ## walks -/

/-- the rest of the steps goes on from where the first ones lead -/
theorem advance_append (here : Place) (a b : List Step) :
    advance here (a ++ b) =
      match advance here a with
      | .error e => .error e
      | .ok (.arrived (.directory place)) => advance place b
      | .ok (.arrived (.file content)) =>
        if b = [] then .ok (.arrived (.file content)) else .error .notADirectory
      | .ok (.atLink directory target rest) => .ok (.atLink directory target (rest ++ b)) := by
  induction a generalizing here with
  | nil => rfl
  | cons step a ih =>
    cases step with
    | stay => exact ih here
    | up => exact ih here.up
    | into name =>
      rw [List.cons_append, advance, advance]
      split
      · rfl
      · split
        · rfl
        · rfl
        · exact ih _
        · by_cases ha : a = []
          · subst ha
            simp
          · have hab : a ++ b ≠ [] := fun h => ha (List.append_eq_nil_iff.1 h).1
            rw [if_neg ha, if_neg hab]

/-- a walk without links is its advance -/
theorem walk_congr {t : Tree} {links : Nat} {here here' : Place} {a a' : List Step}
    (h : advance here a = advance here' a') : t.walk links here a = t.walk links here' a' := by
  rw [walk, walk, h]

/-- the first steps of a walk that goes on end in a directory or at a link -/
theorem advance_of_walk_append {t : Tree} {links : Nat} {here : Place} {a b : List Step}
    {found : Found} (hb : b ≠ []) (h : t.walk links here (a ++ b) = .ok found) :
    (∃ place, advance here a = .ok (.arrived (.directory place))) ∨
      ∃ directory target rest, advance here a = .ok (.atLink directory target rest) := by
  rw [walk, advance_append] at h
  split at h
  · cases h
  · rename_i f hf
    split at hf
    · cases hf
    · rename_i place hp
      exact .inl ⟨place, hp⟩
    · rw [if_neg hb] at hf
      cases hf
    · cases hf
  · rename_i hf
    split at hf
    · cases hf
    · rename_i place hp
      exact .inl ⟨place, hp⟩
    · rw [if_neg hb] at hf
      cases hf
    · rename_i directory target rest hl
      exact .inr ⟨directory, target, rest, hl⟩

/-- at a link a walk goes on along the target of the link -/
theorem walk_of_atLink {t : Tree} {links : Nat} {here directory : Place} {steps rest : List Step}
    {target : String} (h : advance here steps = .ok (.atLink directory target rest)) :
    t.walk links here steps =
      match links with
      | 0 => .error .tooManyLinks
      | links + 1 =>
        match route target with
        | .error e => .error e
        | .ok r => t.walk links (if r.isAbsolute then t.top else directory) (r.steps ++ rest) := by
  rw [walk]
  generalize advance here steps = next at h
  subst h
  rfl

/-- a walk that goes on comes through a directory, with some links left to follow -/
theorem walk_append {t : Tree} {links : Nat} {here : Place} {a b : List Step} {found : Found}
    (hb : b ≠ []) (h : t.walk links here (a ++ b) = .ok found) :
    ∃ links' place, t.walk links here a = .ok (.directory place) ∧
      t.walk links' place b = .ok found := by
  induction links generalizing here a with
  | zero =>
    rcases advance_of_walk_append hb h with ⟨place, hp⟩ | ⟨directory, target, rest, hl⟩
    · have hpb : advance here (a ++ b) = advance place b := by rw [advance_append, hp]
      exact ⟨0, place, by rw [walk, hp], walk_congr hpb ▸ h⟩
    · have hlb : advance here (a ++ b) = .ok (.atLink directory target (rest ++ b)) := by
        rw [advance_append, hl]
      rw [walk_of_atLink hlb] at h
      cases h
  | succ links ih =>
    rcases advance_of_walk_append hb h with ⟨place, hp⟩ | ⟨directory, target, rest, hl⟩
    · have hpb : advance here (a ++ b) = advance place b := by rw [advance_append, hp]
      exact ⟨links + 1, place, by rw [walk, hp], walk_congr hpb ▸ h⟩
    · have hlb : advance here (a ++ b) = .ok (.atLink directory target (rest ++ b)) := by
        rw [advance_append, hl]
      rw [walk_of_atLink hlb] at h
      rw [walk_of_atLink hl]
      cases hr : route target with
      | error e => simp [hr] at h
      | ok r =>
        simp only [hr] at h
        rw [← List.append_assoc] at h
        exact ih h

theorem mem_of_walk_into {t : Tree} {links : Nat} {place : Place} {name : FileName} {found : Found}
    (h : t.walk links place [.into name] = .ok found) : name ∈ place.entries.map (·.1) := by
  refine Decidable.byContradiction fun hn => ?_
  have hl : place.entries.lookup name = none := by
    rw [List.lookup_eq_none_iff]
    intro entry he
    rw [bne_iff_ne]
    rintro rfl
    exact hn (List.mem_map_of_mem he)
  rw [walk, advance, hl] at h
  by_cases hs : maxNameSize < name.size
  · rw [if_pos hs] at h
    cases h
  · rw [if_neg hs] at h
    cases h

/-! ## entries of a directory -/

theorem stat_eq_ok_iff {t : Tree} {cwd : Place} {path : String} {kind : FileKind} :
    (t.disk cwd).stat path = .ok kind ↔
      ∃ found, t.resolve cwd path = .ok found ∧ found.kind = kind := by
  show (t.resolve cwd path).map Found.kind = .ok kind ↔ _
  cases t.resolve cwd path with
  | error e => simp [Except.map]
  | ok found => simp [Except.map]

theorem list_of_resolve {t : Tree} {cwd place : Place} {path : String}
    (h : t.resolve cwd path = .ok (.directory place)) :
    (t.disk cwd).list path = .ok (.ofNames (place.entries.map (·.1))) := by
  show t.resolve cwd path >>= Found.listing = _
  rw [h]
  rfl

/-- whatever a path below a directory leads to is an entry of the directory -/
theorem hasEntry_disk {t : Tree} {cwd : Place} {directory n : String} {kind : FileKind}
    (hn : IsEntryName n) (hd : Path.NeedsSlash directory)
    (h : (t.disk cwd).stat (Path.join directory n) = .ok kind) :
    (t.disk cwd).HasEntry directory n kind := by
  obtain ⟨found, hf, -⟩ := stat_eq_ok_iff.1 h
  unfold resolve at hf
  split at hf
  · cases hf
  · rename_i r hr
    obtain ⟨r', hr', ha, hs⟩ := route_join hn hd hr
    rw [hs, ha] at hf
    obtain ⟨links, place, hp, hw⟩ := walk_append (List.cons_ne_nil _ _) hf
    have hres : t.resolve cwd directory = .ok (.directory place) := by
      rw [resolve, hr']
      exact hp
    refine ⟨_, hn, list_of_resolve hres, ?_, h⟩
    exact mem_distinct.2 (mem_of_walk_into hw)

theorem hasEntry_iff {t : Tree} {cwd : Place} {directory n : String} {kind : FileKind}
    (hd : Path.NeedsSlash directory) : (t.disk cwd).HasEntry directory n kind ↔
      IsEntryName n ∧ (t.disk cwd).stat (Path.join directory n) = .ok kind := by
  constructor
  · rintro ⟨_, hn, _, _, hs⟩
    exact ⟨hn, hs⟩
  · rintro ⟨hn, hs⟩
    exact hasEntry_disk hn hd hs

end Tree

end ProjectAudit
