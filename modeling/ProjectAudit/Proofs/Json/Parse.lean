import ProjectAudit.Proofs.Json.Scan

/-!
# Parsing JSON

A machine with a stack of the lists and records that are open.  Its state and the tokens it has read
determine each other: a step adds its token to them (`Parse.read_step`), and a value is read to its
last token whatever is around it (`foldlM_tokens`).  So the tokens of a value are parsed as that
value and no others are (`parse?_eq_some_iff`), and the value of a text is what the grammar says
(`read?_eq_some_iff`).
-/

namespace ProjectAudit
namespace Json

/-! ## the machine -/

/-- a list or a record around the value that is read, with what stands before it -/
inductive Frame where
  | list (items : List Json)
  | record (fields : List (String × Json)) (key : String)

/-- what has been read, or what is to come next -/
inductive Place where
  | nextValue
  | firstItem
  | firstKey
  | nextKey (fields : List (String × Json))
  | nextColon (fields : List (String × Json)) (key : String)
  | after (value : Json)

structure Parse where
  place : Place
  stack : List Frame

namespace Parse

/-- the first token of a value -/
def start (stack : List Frame) : Token → Option Parse
  | .bool value => some ⟨.after (.bool value), stack⟩
  | .number value => some ⟨.after (.number value), stack⟩
  | .text value => some ⟨.after (.text value), stack⟩
  | .openList => some ⟨.firstItem, stack⟩
  | .openRecord => some ⟨.firstKey, stack⟩
  | _ => none

def step : Parse → Token → Option Parse
  | ⟨.nextValue, stack⟩, t => start stack t
  | ⟨.firstItem, stack⟩, .closeList => some ⟨.after (.list []), stack⟩
  | ⟨.firstItem, stack⟩, t => start (.list [] :: stack) t
  | ⟨.firstKey, stack⟩, .closeRecord => some ⟨.after (.record []), stack⟩
  | ⟨.firstKey, stack⟩, .text key => some ⟨.nextColon [] key, stack⟩
  | ⟨.nextKey fields, stack⟩, .text key => some ⟨.nextColon fields key, stack⟩
  | ⟨.nextColon fields key, stack⟩, .colon => some ⟨.nextValue, .record fields key :: stack⟩
  | ⟨.after value, .list items :: stack⟩, .comma =>
    some ⟨.nextValue, .list (items ++ [value]) :: stack⟩
  | ⟨.after value, .list items :: stack⟩, .closeList =>
    some ⟨.after (.list (items ++ [value])), stack⟩
  | ⟨.after value, .record fields key :: stack⟩, .comma =>
    some ⟨.nextKey (fields ++ [(key, value)]), stack⟩
  | ⟨.after value, .record fields key :: stack⟩, .closeRecord =>
    some ⟨.after (.record (fields ++ [(key, value)])), stack⟩
  | _, _ => none

def finish : Parse → Option Json
  | ⟨.after value, []⟩ => some value
  | _ => none

end Parse

def parse? (ts : List Token) : Option Json :=
  (ts.foldlM Parse.step ⟨.nextValue, []⟩).bind Parse.finish

/-- the value of a JSON text -/
def read? (text : String) : Option Json := (Scan.between.run text.toList).bind parse?

/-! ## the tokens that have been read -/

/-- a list up to the next item -/
def openTokens : List Json → List Token
  | [] => [.openList]
  | item :: items => .openList :: (item.tokens ++ itemTokens items ++ [.comma])

/-- a record up to the next key -/
def openFields : List (String × Json) → List Token
  | [] => [.openRecord]
  | (key, value) :: fields =>
    .openRecord :: .text key :: .colon :: (value.tokens ++ fieldTokens fields ++ [.comma])

def Frame.tokens : Frame → List Token
  | .list items => openTokens items
  | .record fields key => openFields fields ++ [.text key, .colon]

def Place.tokens : Place → List Token
  | .nextValue => []
  | .firstItem => [.openList]
  | .firstKey => [.openRecord]
  | .nextKey fields => openFields fields
  | .nextColon fields key => openFields fields ++ [.text key]
  | .after value => value.tokens

/-- the stack has the innermost list or record on top -/
def Parse.read (p : Parse) : List Token :=
  p.stack.reverse.flatMap (·.tokens) ++ p.place.tokens

theorem openTokens_nil : openTokens [] = [.openList] := rfl

theorem openFields_nil : openFields [] = [.openRecord] := rfl

theorem itemTokens_append (items more : List Json) :
    itemTokens (items ++ more) = itemTokens items ++ itemTokens more := by
  induction items with
  | nil => rfl
  | cons item items ih => simp [itemTokens, ih]

theorem fieldTokens_append (fields more : List (String × Json)) :
    fieldTokens (fields ++ more) = fieldTokens fields ++ fieldTokens more := by
  induction fields with
  | nil => rfl
  | cons field fields ih => simp [fieldTokens, ih]

theorem openTokens_append (items : List Json) (value : Json) :
    openTokens (items ++ [value]) = openTokens items ++ (value.tokens ++ [.comma]) := by
  cases items <;> simp [openTokens, itemTokens, itemTokens_append]

theorem openFields_append (fields : List (String × Json)) (key : String) (value : Json) :
    openFields (fields ++ [(key, value)]) =
      openFields fields ++ .text key :: .colon :: (value.tokens ++ [.comma]) := by
  cases fields <;> simp [openFields, fieldTokens, fieldTokens_append]

theorem tokens_list_append (items : List Json) (value : Json) :
    (Json.list (items ++ [value])).tokens = openTokens items ++ (value.tokens ++ [.closeList]) := by
  cases items <;> simp [openTokens, tokens, itemTokens, itemTokens_append]

theorem tokens_record_append (fields : List (String × Json)) (key : String) (value : Json) :
    (Json.record (fields ++ [(key, value)])).tokens =
      openFields fields ++ .text key :: .colon :: (value.tokens ++ [.closeRecord]) := by
  cases fields <;> simp [openFields, tokens, fieldTokens, fieldTokens_append]

namespace Parse

variable {p q : Parse} {t : Token} {ts : List Token} {value : Json}

theorem read_start {stack : List Frame} (h : start stack t = some q) :
    q.read = stack.reverse.flatMap (·.tokens) ++ [t] := by
  unfold start at h
  split at h <;> cases h <;> simp [read, Place.tokens, Json.tokens]

/-- **One step.**  A step adds its token to those that have been read. -/
theorem read_step (h : p.step t = some q) : q.read = p.read ++ [t] := by
  unfold step at h
  split at h
  -- a value starts here, and in the second case it is the first item of a list
  case h_1 => simpa [read, Place.tokens] using read_start h
  case h_3 => simpa [read, Place.tokens, Frame.tokens, openTokens_nil] using read_start h
  case h_12 => cases h
  all_goals
    cases h
    simp [read, Place.tokens, Frame.tokens, tokens, openFields_nil, openTokens_append,
      openFields_append, tokens_list_append, tokens_record_append]

theorem read_foldlM (h : ts.foldlM step p = some q) : q.read = p.read ++ ts := by
  induction ts generalizing p with
  | nil =>
    cases h
    rw [List.append_nil]
  | cons t ts ih =>
    rw [List.foldlM_cons] at h
    obtain ⟨next, hstep, h⟩ := Option.bind_eq_some_iff.1 h
    rw [ih h, read_step hstep, List.append_assoc]
    rfl

theorem read_of_finish (h : p.finish = some value) : p.read = value.tokens := by
  unfold finish at h
  split at h <;> cases h
  rfl

end Parse

/-! ## the tokens of a value -/

/-- the first token of an item does not close the list -/
theorem foldlM_firstItem (item : Json) (stack : List Frame) (ts : List Token) :
    (item.tokens ++ ts).foldlM Parse.step ⟨.firstItem, stack⟩ =
      (item.tokens ++ ts).foldlM Parse.step ⟨.nextValue, .list [] :: stack⟩ := by
  match item with
  | .bool _ | .number _ | .text _ | .list [] | .list (_ :: _) | .record [] | .record (_ :: _) =>
    rw [tokens]
    rfl

mutual

/-- a value is read to its last token -/
theorem foldlM_tokens : ∀ (value : Json) (stack : List Frame) (ts : List Token),
    (value.tokens ++ ts).foldlM Parse.step ⟨.nextValue, stack⟩ =
      ts.foldlM Parse.step ⟨.after value, stack⟩
  | .bool value, stack, ts => by rw [tokens]; rfl
  | .number value, stack, ts => by rw [tokens]; rfl
  | .text value, stack, ts => by rw [tokens]; rfl
  | .list [], stack, ts => by rw [tokens]; rfl
  | .list (item :: items), stack, ts => by
    have hitem := foldlM_tokens item (.list [] :: stack) (itemTokens items ++ .closeList :: ts)
    have hitems := foldlM_itemTokens items [] item stack ts
    rw [List.nil_append] at hitems
    rw [← hitems, ← hitem, ← foldlM_firstItem, tokens, List.cons_append, List.append_assoc,
      List.append_assoc, List.foldlM_cons]
    rfl
  | .record [], stack, ts => by rw [tokens]; rfl
  | .record ((key, value) :: fields), stack, ts => by
    have hvalue := foldlM_tokens value (.record [] key :: stack)
      (fieldTokens fields ++ .closeRecord :: ts)
    have hfields := foldlM_fieldTokens fields [] key value stack ts
    rw [List.nil_append] at hfields
    rw [← hfields, ← hvalue, tokens, List.append_assoc, List.cons_append, List.cons_append,
      List.cons_append, List.append_assoc, List.append_assoc, List.foldlM_cons]
    rfl

theorem foldlM_itemTokens : ∀ (items before : List Json) (value : Json) (stack : List Frame)
    (ts : List Token),
    (itemTokens items ++ .closeList :: ts).foldlM Parse.step
        ⟨.after value, .list before :: stack⟩ =
      ts.foldlM Parse.step ⟨.after (.list (before ++ value :: items)), stack⟩
  | [], before, value, stack, ts => by rw [itemTokens]; rfl
  | item :: items, before, value, stack, ts => by
    have hitem := foldlM_tokens item (.list (before ++ [value]) :: stack)
      (itemTokens items ++ .closeList :: ts)
    have hitems := foldlM_itemTokens items (before ++ [value]) item stack ts
    rw [← List.append_cons] at hitems
    rw [← hitems, ← hitem, itemTokens, List.cons_append, List.append_assoc, List.foldlM_cons]
    rfl

theorem foldlM_fieldTokens : ∀ (fields before : List (String × Json)) (key : String) (value : Json)
    (stack : List Frame) (ts : List Token),
    (fieldTokens fields ++ .closeRecord :: ts).foldlM Parse.step
        ⟨.after value, .record before key :: stack⟩ =
      ts.foldlM Parse.step ⟨.after (.record (before ++ (key, value) :: fields)), stack⟩
  | [], before, key, value, stack, ts => by rw [fieldTokens]; rfl
  | (next, item) :: fields, before, key, value, stack, ts => by
    have hitem := foldlM_tokens item (.record (before ++ [(key, value)]) next :: stack)
      (fieldTokens fields ++ .closeRecord :: ts)
    have hfields := foldlM_fieldTokens fields (before ++ [(key, value)]) next item stack ts
    rw [← List.append_cons] at hfields
    rw [← hfields, ← hitem, fieldTokens, List.cons_append, List.cons_append, List.cons_append,
      List.append_assoc, List.foldlM_cons]
    rfl

end

/-- The tokens of a value are parsed as that value, and no others are. -/
theorem parse?_eq_some_iff {ts : List Token} {value : Json} :
    parse? ts = some value ↔ ts = value.tokens := by
  constructor
  · intro h
    obtain ⟨p, hrun, hfinish⟩ := Option.bind_eq_some_iff.1 h
    have hread := Parse.read_foldlM hrun
    rwa [Parse.read_of_finish hfinish, eq_comm] at hread
  · rintro rfl
    have hrun := foldlM_tokens value [] []
    rw [List.append_nil] at hrun
    rw [parse?, hrun]
    rfl

/-- **Reading is the inverse of the grammar.**  A text is read as a value exactly if it is JSON for
this value, and so it is JSON for one value at most. -/
theorem read?_eq_some_iff {text : String} {value : Json} :
    read? text = some value ↔ value.IsWrittenAs text := by
  unfold read? IsWrittenAs
  rw [Option.bind_eq_some_iff]
  constructor
  · rintro ⟨ts, hscan, hparse⟩
    obtain rfl := parse?_eq_some_iff.1 hparse
    exact Scan.run_eq_some_iff.1 hscan
  · intro h
    exact ⟨value.tokens, Scan.run_eq_some_iff.2 h, parse?_eq_some_iff.2 rfl⟩

end Json
end ProjectAudit
