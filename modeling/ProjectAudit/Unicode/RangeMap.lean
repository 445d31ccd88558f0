/-!
# Maps keyed by ranges of characters

A property or a mapping of characters is written down as a list of runs in ascending order.
`RangeMap.ofList` turns such a list into a search tree and `RangeMap.find?` looks a code point
up in it.  `RangeMap.find?_ofList` says that an answer is a run of the list that covers the
code point.
-/

namespace ProjectAudit

/-- the code points from `first` to `last` and what they have in common -/
structure Run (α : Type) where
  first : Nat
  last : Nat
  value : α

inductive RangeMap (α : Type) where
  | empty
  | node (left : RangeMap α) (run : Run α) (right : RangeMap α)

namespace RangeMap
variable {α : Type}

/-- a tree of at most `depth` levels with the leading runs, and the runs that are left -/
def fill : Nat → List (Run α) → RangeMap α × List (Run α)
  | 0, runs => (.empty, runs)
  | depth + 1, runs =>
    match fill depth runs with
    | (left, []) => (left, [])
    | (left, run :: rest) =>
      match fill depth rest with
      | (right, rest) => (.node left run right, rest)

/-- how many runs a tree of `depth` levels holds -/
def room : Nat → Nat
  | 0 => 0
  | depth + 1 => 2 * room depth + 1

/-- as many levels as the runs need -/
def ofList (runs : List (Run α)) : RangeMap α := (fill (runs.length.log2 + 1) runs).1

def find? : RangeMap α → Nat → Option (Run α)
  | .empty, _ => none
  | .node left run right, c =>
    if c < run.first then left.find? c
    else if run.last < c then right.find? c
    else some run

def toList : RangeMap α → List (Run α)
  | .empty => []
  | .node left run right => left.toList ++ run :: right.toList

/-! ## the runs of a tree -/

theorem toList_fill (depth : Nat) (runs : List (Run α)) :
    (fill depth runs).1.toList ++ (fill depth runs).2 = runs := by
  induction depth generalizing runs with
  | zero => rfl
  | succ depth ih =>
    have h := ih runs
    rcases hl : fill depth runs with ⟨left, rest⟩
    rw [hl] at h
    cases rest with
    | nil => simpa [fill, hl] using h
    | cons run rest => simpa [fill, hl, toList, ih rest] using h

/-- a tree of `depth` levels leaves out only what it has no room for -/
theorem length_fill (depth : Nat) (runs : List (Run α)) :
    (fill depth runs).2.length ≤ runs.length - room depth := by
  induction depth generalizing runs with
  | zero => simp [fill, room]
  | succ depth ih =>
    have h := ih runs
    rcases hl : fill depth runs with ⟨left, rest⟩
    rw [hl] at h
    cases rest with
    | nil =>
      simp only [fill, hl, List.length_nil]
      exact Nat.zero_le _
    | cons run rest =>
      have h' := ih rest
      simp only [fill, hl]
      simp only [List.length_cons] at h
      rw [room]
      omega

theorem le_room (n : Nat) : n ≤ room (n.log2 + 1) := by
  have h : ∀ depth, room depth + 1 = 2 ^ depth := by
    intro depth
    induction depth with
    | zero => rfl
    | succ depth ih =>
      rw [room, Nat.pow_succ]
      omega
  have hn : n < 2 ^ (n.log2 + 1) := Nat.lt_log2_self
  have := h (n.log2 + 1)
  omega

theorem toList_ofList (runs : List (Run α)) : (ofList runs).toList = runs := by
  have h := toList_fill (runs.length.log2 + 1) runs
  have hl := length_fill (runs.length.log2 + 1) runs
  have hp := le_room runs.length
  have hr : (fill (runs.length.log2 + 1) runs).2 = [] := List.length_eq_zero_iff.1 (by omega)
  rwa [hr, List.append_nil] at h

theorem mem_of_find? {m : RangeMap α} {c : Nat} {run : Run α} (h : m.find? c = some run) :
    run ∈ m.toList ∧ run.first ≤ c ∧ c ≤ run.last := by
  induction m with
  | empty => simp [find?] at h
  | node left here right ihl ihr =>
    rw [find?] at h
    split at h
    · obtain ⟨hm, hc⟩ := ihl h
      exact ⟨by simp [toList, hm], hc⟩
    · split at h
      · obtain ⟨hm, hc⟩ := ihr h
        exact ⟨by simp [toList, hm], hc⟩
      · obtain rfl := Option.some.inj h
        exact ⟨by simp [toList], by omega, by omega⟩

/-- an answer is a run of the list that covers the code point -/
theorem find?_ofList {runs : List (Run α)} {c : Nat} {run : Run α}
    (h : (ofList runs).find? c = some run) : run ∈ runs ∧ run.first ≤ c ∧ c ≤ run.last := by
  have hm := mem_of_find? h
  rwa [toList_ofList] at hm

end RangeMap

/-! ## sets of characters -/

abbrev CharSet := RangeMap Unit

namespace CharSet

/-- the characters in the ranges, each given by its first and last code point -/
def ofRanges (ranges : List (Nat × Nat)) : CharSet :=
  .ofList (ranges.map fun (first, last) => ⟨first, last, ()⟩)

def contains (s : CharSet) (c : Char) : Bool := (s.find? c.toNat).isSome

end CharSet

end ProjectAudit
