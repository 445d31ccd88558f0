import ProjectAudit.Proofs.Disk.Entry

/-!
# Different paths to one directory

What is found below a directory depends on the directory and not on the path that leads to it, but a
path may be too long or lead over too many links (`Tree.resolve_join_cases`).  So what is there
below one path to the directory is not absent below another (`Tree.isAbsence_eq_false_of_same`).
-/

namespace ProjectAudit
open Text

/-! ## the route to an entry -/

namespace IsEntryName
variable {n directory : String}

theorem join_eq_append {d : List Char} (h : IsEntryName n) (hd : directory.toList = d ++ ['/']) :
    (Path.join directory n).toList = d ++ '/' :: n.toList := by
  simp [Path.join, h.isAbsolute_eq_false, hd]

/-- the steps to an entry are those that the pieces of the path of its directory ask for, whether or
not the path ends in a slash, and one more -/
theorem steps_join_eq (h : IsEntryName n) (hd : directory ≠ "") :
    (Route.ofText (Path.join directory n).toList).steps =
      (split (· = '/') directory.toList).filterMap Step.ofPiece? ++ [.into (.text n h)] := by
  have hne : directory.toList ≠ [] := fun he => hd (String.toList_inj.1 he)
  have hdc := (List.dropLast_concat_getLast hne).symm
  generalize directory.toList.dropLast = d at hdc
  generalize directory.toList.getLast hne = c at hdc
  by_cases hc : c = '/'
  · subst hc
    have hl : (d ++ '/' :: n.toList).getLast? ≠ some '/' := by
      have hn : n.toList ≠ [] := fun he => h.1 (String.toList_inj.1 he)
      rw [List.getLast?_append, List.getLast?_cons, List.getLast?_eq_some_getLast hn]
      simpa [List.getLast?_eq_some_getLast hn] using h.getLast?_ne
    have hempty : Step.ofPiece? [] = none := by decide
    rw [h.join_eq_append hdc, hdc]
    simp only [Route.ofText, if_neg hl, List.append_nil]
    rw [split_append_sep (by simp), split_append_sep (by simp), h.split_toList, split_nil,
      List.filterMap_append, List.filterMap_append, List.filterMap_cons, h.ofPiece?_toList,
      List.filterMap_cons, hempty, List.filterMap_nil, List.append_nil]
  · have hlast : directory.toList.getLast? = some c := by rw [hdc, List.getLast?_concat]
    have hslash : Path.NeedsSlash directory := ⟨c, hlast, hc⟩
    have hl : directory.toList.getLast? ≠ some '/' := by
      rw [hlast]
      exact fun he => hc (Option.some.inj he)
    rw [Path.join_of_needsSlash hslash h.isAbsolute_eq_false, h.steps_join hslash]
    simp only [Route.ofText, if_neg hl, List.append_nil]

end IsEntryName

namespace Tree

theorem route_eq_ok_iff {path : String} {r : Route} :
    route path = .ok r ↔ '\x00' ∉ path.toList ∧ path.utf8ByteSize ≤ maxPathSize ∧ path ≠ "" ∧
      .ofText path.toList = r := by
  unfold route
  split
  · rename_i h
    simp [h]
  · rename_i hz
    split
    · rename_i h
      simp [Nat.not_le.2 h]
    · rename_i hl
      split
      · rename_i h
        simp [h]
      · rename_i he
        simp [hz, Nat.not_lt.1 hl, he]

theorem stat_eq_error_iff {t : Tree} {cwd : Place} {path : String} {e : FileError} :
    (t.disk cwd).stat path = .error e ↔ t.resolve cwd path = .error e := by
  show (t.resolve cwd path).map Found.kind = .error e ↔ _
  cases t.resolve cwd path with
  | error e' => simp [Except.map]
  | ok found => simp [Except.map]

theorem exists_resolve_of_list {t : Tree} {cwd : Place} {path : String} {listing : Listing}
    (h : (t.disk cwd).list path = .ok listing) :
    ∃ place, t.resolve cwd path = .ok (.directory place) := by
  change t.resolve cwd path >>= Found.listing = .ok listing at h
  cases hr : t.resolve cwd path with
  | error e =>
    rw [hr] at h
    cases h
  | ok found =>
    cases found with
    | directory place => exact ⟨place, rfl⟩
    | file content =>
      rw [hr] at h
      cases h

/-! ## walks with different bounds -/

/-- a walk that comes to its end does so under any other bound, unless there are too many links -/
theorem walk_of_walk {t : Tree} {links : Nat} {here : Place} {steps : List Step} {found : Found}
    (h : t.walk links here steps = .ok found) (links' : Nat) :
    t.walk links' here steps = .ok found ∨ t.walk links' here steps = .error .tooManyLinks := by
  fun_induction Tree.walk t links here steps generalizing links' with
  | case1 => cases h
  | case2 links here steps found' ha =>
    cases h
    rw [walk, ha]
    exact .inl rfl
  | case3 => cases h
  | case4 => cases h
  | case5 here steps directory target rest ha links r hr ih =>
    rw [walk_of_atLink ha]
    cases links' with
    | zero => exact .inr rfl
    | succ links' =>
      simp only [hr]
      exact ih h links'

/-- a slash at the end of the path of a directory asks for nothing that is not there -/
theorem walk_of_walk_stay {t : Tree} {links : Nat} {here place : Place} {steps : List Step}
    (h : t.walk links here (steps ++ [.stay]) = .ok (.directory place)) :
    t.walk links here steps = .ok (.directory place) := by
  obtain ⟨links', place', hp, hs⟩ := walk_append (List.cons_ne_nil _ _) h
  have hstay : t.walk links' place' [.stay] = .ok (.directory place') := by rw [walk]; rfl
  rw [hstay] at hs
  cases hs
  exact hp

/-- the pieces of its path lead to the directory, whether or not the path ends in a slash -/
theorem walk_pieces {t : Tree} {cwd place : Place} {directory : String}
    (hp : t.resolve cwd directory = .ok (.directory place)) :
    t.walk maxLinks (if Path.isAbsolute directory then t.top else cwd)
      ((split (· = '/') directory.toList).filterMap Step.ofPiece?) = .ok (.directory place) := by
  unfold resolve at hp
  split at hp
  · cases hp
  · rename_i r hr
    obtain ⟨-, -, -, rfl⟩ := route_eq_ok_iff.1 hr
    have hp : t.walk maxLinks (if Path.isAbsolute directory then t.top else cwd)
        ((split (· = '/') directory.toList).filterMap Step.ofPiece? ++
          if directory.toList.getLast? = some '/' then [.stay] else []) =
        .ok (.directory place) := hp
    by_cases hl : directory.toList.getLast? = some '/'
    · rw [if_pos hl] at hp
      exact walk_of_walk_stay hp
    · rwa [if_neg hl, List.append_nil] at hp

/-- the path of an entry can be asked for if that of its directory can, unless it is too long -/
theorem route_join_cases {directory n : String} (hn : IsEntryName n) {r : Route}
    (h : route directory = .ok r) :
    route (Path.join directory n) = .error .nameTooLong ∨
      route (Path.join directory n) = .ok ⟨Path.isAbsolute directory,
        (split (· = '/') directory.toList).filterMap Step.ofPiece? ++ [.into (.text n hn)]⟩ := by
  obtain ⟨hz, -, hne, -⟩ := route_eq_ok_iff.1 h
  have hlist : directory.toList ≠ [] := fun he => hne (String.toList_inj.1 he)
  obtain ⟨below, hb, hzb⟩ : ∃ below, Path.join directory n = directory ++ below ∧
      '\x00' ∉ below.toList := by
    unfold Path.join
    rw [hn.isAbsolute_eq_false, if_neg Bool.false_ne_true]
    split
    · exact ⟨n, rfl, hn.2.2.2.2⟩
    · refine ⟨"/" ++ n, String.append_assoc, ?_⟩
      simp [hn.2.2.2.2]
  have hzj : '\x00' ∉ (Path.join directory n).toList := by
    rw [hb, String.toList_append, List.mem_append, not_or]
    exact ⟨hz, hzb⟩
  have hnej : Path.join directory n ≠ "" := by
    rw [hb]
    intro he
    have ht := congrArg String.toList he
    rw [String.toList_append] at ht
    exact hlist (List.append_eq_nil_iff.1 ht).1
  by_cases hl : maxPathSize < (Path.join directory n).utf8ByteSize
  · left
    rw [route, if_neg hzj, if_pos hl]
  · right
    rw [route, if_neg hzj, if_neg hl, if_neg hnej, ← hn.steps_join_eq hne,
      ← Path.isAbsolute_append hlist below, ← hb]
    rfl

theorem exists_route_of_resolve {t : Tree} {cwd : Place} {path : String} {found : Found}
    (h : t.resolve cwd path = .ok found) : ∃ r, route path = .ok r := by
  unfold resolve at h
  split at h
  · cases h
  · rename_i r hr
    exact ⟨r, hr⟩

/-- an entry of a directory is looked up there, whatever path leads to the directory -/
theorem resolve_join_of_route {t : Tree} {cwd place : Place} {directory n : String} {r : Route}
    (hn : IsEntryName n) (hp : t.resolve cwd directory = .ok (.directory place))
    (hr : route (Path.join directory n) = .ok r) :
    ∃ links, t.resolve cwd (Path.join directory n) = t.walk links place [.into (.text n hn)] := by
  obtain ⟨_, hdir⟩ := exists_route_of_resolve hp
  obtain ⟨links, hentry⟩ := exists_walk_append (walk_pieces hp) [.into (.text n hn)]
  rcases route_join_cases hn hdir with hj | hj
  · rw [hj] at hr
    cases hr
  · refine ⟨links, ?_⟩
    rw [resolve, hj]
    exact hentry

theorem resolve_join_cases {t : Tree} {cwd place : Place} {directory n : String}
    (hn : IsEntryName n) (hp : t.resolve cwd directory = .ok (.directory place)) :
    t.resolve cwd (Path.join directory n) = .error .nameTooLong ∨
      ∃ links, t.resolve cwd (Path.join directory n) =
        t.walk links place [.into (.text n hn)] := by
  obtain ⟨_, hdir⟩ := exists_route_of_resolve hp
  rcases route_join_cases hn hdir with hj | hj
  · left
    rw [resolve, hj]
  · exact .inr (resolve_join_of_route hn hp hj)

/-- what is there below one path to a directory is not absent below another -/
theorem isAbsence_eq_false_of_same {t : Tree} {cwd place : Place} {a b n : String}
    {kind : FileKind} {e : FileError} (hn : IsEntryName n)
    (ha : t.resolve cwd a = .ok (.directory place)) (hb : t.resolve cwd b = .ok (.directory place))
    (hthere : (t.disk cwd).stat (Path.join a n) = .ok kind)
    (he : (t.disk cwd).stat (Path.join b n) = .error e) : e.isAbsence = false := by
  obtain ⟨found, hf, -⟩ := stat_eq_ok_iff.1 hthere
  have he := stat_eq_error_iff.1 he
  rcases resolve_join_cases hn ha with hlong | ⟨links, hwalk⟩
  · rw [hf] at hlong
    cases hlong
  rw [hf] at hwalk
  rcases resolve_join_cases hn hb with hlong | ⟨links', hwalk'⟩
  · rw [he] at hlong
    cases hlong
    rfl
  · rw [he] at hwalk'
    rcases walk_of_walk hwalk.symm links' with hok | hmany
    · rw [← hwalk'] at hok
      cases hok
    · rw [← hwalk'] at hmany
      cases hmany
      rfl

end Tree
end ProjectAudit
