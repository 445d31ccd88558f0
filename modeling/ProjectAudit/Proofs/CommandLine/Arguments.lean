import ProjectAudit.CommandLine.Request

/-!
# Reading arguments one by one

What an argument stands for does not depend on the options that are read before it
(`parseFrom_cons`), so an accepted list of arguments is a chain of steps (`Reads`).  The option for
the whole log is taken once and changes nothing else: wherever it can be added to an accepted list,
all other options are read as before (`parse?_insert_verbose`), and it can be added in front
(`parse?_verbose_cons`).
-/

namespace ProjectAudit.CommandLine

/-! ## single arguments -/

inductive Argument where
  /-- no argument may follow -/
  | finish
  /-- the next argument is the value of the option -/
  | asking (option : ValueOption)
  /-- all that is meant is in the argument itself -/
  | reading (read : Options → Option Reading)

/-- an option with its value in one argument -/
def readAttached (name : List Char) (value : String) (o : Options) : Option Reading :=
  ((ValueOption.ofName? name).bind (o.set value)).map .more

def Argument.ofText (arg : String) : Argument :=
  match arg.toList with
  | ['-', '-'] => .finish
  | '-' :: '-' :: option =>
    match splitValue option with
    | (name, some value) => .reading (readAttached name value)
    | (name, none) =>
      match ValueOption.ofName? name with
      | some valueOption => .asking valueOption
      | none => .reading (readFlag · name)
  | '-' :: letter :: letters => .reading (readLetters · (letter :: letters))
  | _ => .reading fun _ => none

/-- what the rest of the arguments comes to -/
def Reading.followedBy (args : List String) : Reading → Option Request
  | .more o => parseFrom o args
  | .done request => some request

theorem parseFrom_cons (o : Options) (arg : String) (args : List String) :
    parseFrom o (arg :: args) =
      match Argument.ofText arg with
      | .finish => if args.isEmpty then some (.audit o) else none
      | .asking option =>
        match args with
        | [] => none
        | value :: args =>
          if canBeValue value then (o.set value option).bind (parseFrom · args) else none
      | .reading read => (read o).bind (Reading.followedBy args) := by
  rw [parseFrom.eq_def, Argument.ofText]
  simp only
  split
  · rename_i h
    simp only [h]
  · rename_i option hne h
    cases hs : splitValue option with
    | mk name value =>
      cases value with
      | some value =>
        simp only [h, hs, readAttached]
        cases (ValueOption.ofName? name).bind (o.set value) <;> rfl
      | none =>
        cases hn : ValueOption.ofName? name with
        | some valueOption =>
          cases args <;> simp only [h, hs, hn]
        | none =>
          simp only [h, hs, hn]
          rcases readFlag o name with _ | _ | _ <;> rfl
  · rename_i letter letters _ _ h
    simp only [h]
    rcases readLetters o (letter :: letters) with _ | _ | _ <;> rfl
  · simp only
    rfl

/-! ## the option for the whole log -/

def Options.withVerbose (o : Options) : Options := { o with verbose := true }

/-- the option for the whole log is not taken back, not taken twice, and changes nothing else -/
structure HeedsVerbose (read : Options → Option Reading) : Prop where
  stays : ∀ {o o' : Options}, read o = some (.more o') → o.verbose = true → o'.verbose = true
  frame : ∀ {o o' : Options}, read o = some (.more o') → o.verbose = false →
    read o.withVerbose = if o'.verbose then none else some (.more o'.withVerbose)
  /-- more than one argument is read for an audit -/
  ne_audit : ∀ {o o' : Options}, read o ≠ some (.done (.audit o'))

section
variable {o o' : Options} {option : ValueOption} {value : String}

theorem set_withVerbose (o : Options) (value : String) (option : ValueOption) :
    o.withVerbose.set value option = (o.set value option).map (·.withVerbose) := by
  cases option <;> simp only [Options.set, Options.withVerbose] <;> grind

theorem verbose_of_set (h : o.set value option = some o') : o'.verbose = o.verbose := by
  cases option <;> simp only [Options.set] at h <;> grind

theorem setVerbose_of_false (h : o.verbose = false) : o.setVerbose = some o.withVerbose := by
  rw [Options.setVerbose, h]
  rfl

theorem setVerbose_of_true (h : o.verbose = true) : o.setVerbose = none := by
  rw [Options.setVerbose, h]
  rfl

end

theorem heedsVerbose_none : HeedsVerbose fun _ => none where
  stays := nofun
  frame := nofun
  ne_audit := nofun

theorem heedsVerbose_done {request : Request} (h : request = .help ∨ request = .version) :
    HeedsVerbose fun _ => some (.done request) where
  stays := nofun
  frame := nofun
  ne_audit he := by
    rcases h with rfl | rfl <;> cases he

theorem heedsVerbose_more : HeedsVerbose fun o => some (.more o) where
  stays h hv := by
    cases h
    exact hv
  frame h hv := by
    cases h
    rw [hv]
    rfl
  ne_audit := nofun

/-- options of which others than that for the whole log are changed -/
theorem heedsVerbose_of_comm {change : Options → Option Options}
    (hcomm : ∀ o, change o.withVerbose = (change o).map (·.withVerbose))
    (hsame : ∀ {o o'}, change o = some o' → o'.verbose = o.verbose) :
    HeedsVerbose fun o => (change o).map .more where
  stays h hv := by
    obtain ⟨o₁, hc, he⟩ := Option.map_eq_some_iff.1 h
    cases he
    rw [hsame hc, hv]
  frame h hv := by
    obtain ⟨o₁, hc, he⟩ := Option.map_eq_some_iff.1 h
    cases he
    rw [hcomm, hc, hsame hc, hv]
    rfl
  ne_audit h := by
    obtain ⟨o₁, -, he⟩ := Option.map_eq_some_iff.1 h
    cases he

theorem heedsVerbose_setVerbose {read : Options → Option Reading} (h : HeedsVerbose read) :
    HeedsVerbose fun o => o.setVerbose.bind read where
  stays {o o'} hr hv := by
    rw [setVerbose_of_true hv] at hr
    cases hr
  frame {o o'} hr hv := by
    rw [setVerbose_of_false hv] at hr
    have hraised : o.withVerbose.verbose = true := rfl
    rw [setVerbose_of_true hraised, h.stays hr hraised]
    rfl
  ne_audit {o o'} hr := by
    obtain ⟨o₁, -, hr⟩ := Option.bind_eq_some_iff.1 hr
    exact h.ne_audit hr

theorem heedsVerbose_readAttached (name : List Char) (value : String) :
    HeedsVerbose (readAttached name value) := by
  unfold readAttached
  cases ValueOption.ofName? name with
  | none => exact heedsVerbose_none
  | some option => exact heedsVerbose_of_comm (set_withVerbose · value option) verbose_of_set

theorem heedsVerbose_setList : HeedsVerbose fun o => o.setList.map .more := by
  refine heedsVerbose_of_comm (fun o => ?_) fun {o o'} h => ?_
  · obtain ⟨root, format, suites, list, verbose⟩ := o
    cases list <;> rfl
  · obtain ⟨root, format, suites, list, verbose⟩ := o
    cases list <;> cases h
    rfl

theorem heedsVerbose_readFlag (name : List Char) : HeedsVerbose (readFlag · name) := by
  unfold readFlag
  by_cases hhelp : name = "help".toList
  · simp only [if_pos hhelp]
    exact heedsVerbose_done (.inl rfl)
  by_cases hversion : name = "version".toList
  · simp only [if_neg hhelp, if_pos hversion]
    exact heedsVerbose_done (.inr rfl)
  by_cases hlist : name = "list".toList
  · simp only [if_neg hhelp, if_neg hversion, if_pos hlist]
    exact heedsVerbose_setList
  by_cases hverbose : name = "verbose".toList
  · simp only [if_neg hhelp, if_neg hversion, if_neg hlist, if_pos hverbose, Option.map_eq_bind]
    exact heedsVerbose_setVerbose heedsVerbose_more
  · simp only [if_neg hhelp, if_neg hversion, if_neg hlist, if_neg hverbose]
    exact heedsVerbose_none

theorem heedsVerbose_readLetters (letters : List Char) : HeedsVerbose (readLetters · letters) := by
  induction letters with
  | nil => exact heedsVerbose_more
  | cons letter letters ih =>
    by_cases hv : letter = 'v'
    · subst hv
      exact heedsVerbose_setVerbose ih
    by_cases hh : letter = 'h'
    · subst hh
      exact heedsVerbose_done (.inl rfl)
    by_cases hV : letter = 'V'
    · subst hV
      exact heedsVerbose_done (.inr rfl)
    · have hnone : ∀ o, readLetters o (letter :: letters) = none := fun o => by
        simp [readLetters, hv, hh, hV]
      simp only [hnone]
      exact heedsVerbose_none

theorem heedsVerbose_ofText {arg : String} {read : Options → Option Reading}
    (h : Argument.ofText arg = .reading read) : HeedsVerbose read := by
  unfold Argument.ofText at h
  split at h
  · cases h
  · split at h
    · cases h
      exact heedsVerbose_readAttached _ _
    · split at h
      · cases h
      · cases h
        exact heedsVerbose_readFlag _
  · cases h
    exact heedsVerbose_readLetters _
  · cases h
    exact heedsVerbose_none

/-! ## lists of arguments -/

/-- arguments that lead from options to others, without a request before the end -/
inductive Reads : Options → List String → Options → Prop where
  | nil (o : Options) : Reads o [] o
  | finish {arg : String} (o : Options) (ha : Argument.ofText arg = .finish) : Reads o [arg] o
  | asking {o o₁ o' : Options} {arg value : String} {args : List String} {option : ValueOption}
      (ha : Argument.ofText arg = .asking option) (hvalue : canBeValue value = true)
      (hset : o.set value option = some o₁) (hargs : Reads o₁ args o') :
      Reads o (arg :: value :: args) o'
  | reading {o o₁ o' : Options} {arg : String} {args : List String}
      {read : Options → Option Reading} (ha : Argument.ofText arg = .reading read)
      (hread : read o = some (.more o₁)) (hargs : Reads o₁ args o') : Reads o (arg :: args) o'

theorem reads_of_parseFrom {o' : Options} : ∀ (args : List String) (o : Options),
    parseFrom o args = some (.audit o') → Reads o args o'
  | [], o, h => by
    cases h
    exact .nil _
  | arg :: args, o, h => by
    rw [parseFrom_cons] at h
    cases ha : Argument.ofText arg with
    | finish =>
      simp only [ha] at h
      cases args with
      | nil =>
        cases h
        exact .finish _ ha
      | cons => cases h
    | asking option =>
      simp only [ha] at h
      cases args with
      | nil => cases h
      | cons value args =>
        simp only [Option.ite_none_right_eq_some, Option.bind_eq_some_iff] at h
        obtain ⟨hvalue, o₁, hset, hargs⟩ := h
        exact .asking ha hvalue hset (reads_of_parseFrom args o₁ hargs)
    | reading read =>
      simp only [ha, Option.bind_eq_some_iff] at h
      obtain ⟨reading, hread, hargs⟩ := h
      cases reading with
      | more o₁ => exact .reading ha hread (reads_of_parseFrom args o₁ hargs)
      | done request =>
        cases hargs
        exact absurd hread (heedsVerbose_ofText ha).ne_audit

namespace Reads
variable {o o' : Options} {args : List String}

theorem stays (h : Reads o args o') (hv : o.verbose = true) : o'.verbose = true := by
  induction h with
  | nil => exact hv
  | finish => exact hv
  | asking _ _ hset _ ih => exact ih ((verbose_of_set hset).trans hv)
  | reading ha hread _ ih => exact ih ((heedsVerbose_ofText ha).stays hread hv)

/-- from options that have the whole log already, the same arguments lead to the same options -/
theorem parseFrom_withVerbose (h : Reads o args o') (hv : o.verbose = false) :
    parseFrom o.withVerbose args =
      if o'.verbose then none else some (.audit o'.withVerbose) := by
  induction h with
  | nil o =>
    rw [hv]
    rfl
  | finish o ha =>
    rw [parseFrom_cons, ha, hv]
    rfl
  | asking ha hvalue hset _ ih =>
    rw [parseFrom_cons, ha]
    simp only [hvalue, if_true, set_withVerbose, hset, Option.map_some, Option.bind_some]
    exact ih ((verbose_of_set hset).trans hv)
  | @reading o o₁ o' arg args read ha hread hargs ih =>
    have hframe := (heedsVerbose_ofText ha).frame hread hv
    rw [parseFrom_cons, ha]
    cases hv₁ : o₁.verbose with
    | false =>
      rw [hv₁] at hframe
      simp only [hframe]
      exact ih hv₁
    | true =>
      rw [hv₁] at hframe
      simp only [hframe, hargs.stays hv₁]
      rfl

theorem parseFrom_verbose_cons (h : Reads o args o') : parseFrom o ("-v" :: args) =
    if o'.verbose then none else some (.audit o'.withVerbose) := by
  have hletters : Argument.ofText "-v" = .reading (readLetters · ['v']) := rfl
  rw [parseFrom_cons, hletters]
  cases hv : o.verbose with
  | false =>
    rw [← h.parseFrom_withVerbose hv]
    simp only [readLetters, setVerbose_of_false hv]
    rfl
  | true =>
    simp only [readLetters, setVerbose_of_true hv, h.stays hv]
    rfl

theorem of_verbose_cons (h : Reads o args o') {request : Request}
    (hr : parseFrom o ("-v" :: args) = some request) :
    o'.verbose = false ∧ request = .audit o'.withVerbose := by
  rw [h.parseFrom_verbose_cons, Option.ite_none_left_eq_some] at hr
  exact ⟨Bool.eq_false_iff.2 hr.1, (Option.some.inj hr.2).symm⟩

/-- the option is refused, or it changes nothing else: it is no value, and nothing follows `--` -/
theorem of_insert_verbose (h : Reads o args o') {before later : List String}
    (hargs : args = before ++ later) {request : Request}
    (hr : parseFrom o (before ++ "-v" :: later) = some request) :
    o'.verbose = false ∧ request = .audit o'.withVerbose := by
  induction h generalizing before with
  | nil o =>
    obtain ⟨rfl, rfl⟩ := List.append_eq_nil_iff.1 hargs.symm
    exact (nil o).of_verbose_cons hr
  | @finish arg o ha =>
    cases before with
    | nil =>
      rw [List.nil_append] at hargs
      subst hargs
      exact (finish o ha).of_verbose_cons hr
    | cons first before =>
      obtain ⟨rfl, -⟩ := List.cons.inj hargs
      rw [List.cons_append, parseFrom_cons, ha] at hr
      cases before <;> cases hr
  | @asking o o₁ o' arg value args option ha hvalue hset h ih =>
    cases before with
    | nil =>
      rw [List.nil_append] at hargs
      subst hargs
      exact (asking ha hvalue hset h).of_verbose_cons hr
    | cons first before =>
      obtain ⟨rfl, hlater⟩ := List.cons.inj hargs
      rw [List.cons_append, parseFrom_cons, ha] at hr
      cases before with
      | nil => cases hr
      | cons second before =>
        obtain ⟨rfl, hrest⟩ := List.cons.inj hlater
        simp only [List.cons_append, hvalue, if_true, hset] at hr
        exact ih hrest hr
  | @reading o o₁ o' arg args read ha hread h ih =>
    cases before with
    | nil =>
      rw [List.nil_append] at hargs
      subst hargs
      exact (reading ha hread h).of_verbose_cons hr
    | cons first before =>
      obtain ⟨rfl, hlater⟩ := List.cons.inj hargs
      rw [List.cons_append, parseFrom_cons, ha] at hr
      simp only [hread] at hr
      exact ih hlater hr

end Reads

/-! ## accepted arguments -/

section
variable {o : Options} {before later : List String}

theorem parse?_verbose_cons {args : List String} (h : parse? args = some (.audit o))
    (hv : o.verbose = false) : parse? ("-v" :: args) = some (.audit o.withVerbose) := by
  rw [parse?, (reads_of_parseFrom args .initial h).parseFrom_verbose_cons, hv]
  rfl

/-- wherever the option may be added, it is the only one that changes -/
theorem parse?_insert_verbose {request : Request}
    (h : parse? (before ++ later) = some (.audit o))
    (hr : parse? (before ++ "-v" :: later) = some request) :
    o.verbose = false ∧ request = .audit o.withVerbose :=
  (reads_of_parseFrom _ .initial h).of_insert_verbose rfl hr

end

end ProjectAudit.CommandLine
