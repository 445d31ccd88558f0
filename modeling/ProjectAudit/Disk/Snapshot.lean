import ProjectAudit.Disk.Basic

/-!
# Recorded answers

A snapshot holds the answers of the operating system to a number of questions, so that a run can
be judged by them afterwards.  What was not asked is not there.
-/

namespace ProjectAudit

structure Snapshot where
  stats : List (String × Except FileError FileKind)
  texts : List (String × Except FileError String)
  listings : List (String × Except FileError Listing)

namespace Snapshot

def empty : Snapshot := ⟨[], [], []⟩

def append (a b : Snapshot) : Snapshot :=
  ⟨a.stats ++ b.stats, a.texts ++ b.texts, a.listings ++ b.listings⟩

instance : Append Snapshot := ⟨append⟩

def answer {α : Type} (answers : List (String × Except FileError α)) (path : String) :
    Except FileError α :=
  (answers.lookup path).getD (.error .notFound)

def disk (s : Snapshot) : Disk where
  stat := answer s.stats
  read := answer s.texts
  list := answer s.listings

end Snapshot

end ProjectAudit
