/-!
# Dictionaries

Texts under distinct names, in the order of their names (by code point).

## Main definitions

* `Dictionary`: the entries with the proof that their names increase.
* `Dictionary.insert`, `Dictionary.ofList`, `Dictionary.get?`.
-/

namespace Storyboard

/-- Texts under names, the names strictly increasing. -/
structure Dictionary where
  entries : List (String × String)
  increasing : entries.Pairwise fun a b => a.1 < b.1
deriving DecidableEq

namespace Dictionary

/-- Puts a text under a name, in order; a text already there is replaced. -/
def insertEntry (name text : String) : List (String × String) → List (String × String)
  | [] => [(name, text)]
  | (other, old) :: rest =>
    if name < other then (name, text) :: (other, old) :: rest
    else if other < name then (other, old) :: insertEntry name text rest
    else (name, text) :: rest

theorem mem_insertEntry {name text : String} {entries : List (String × String)}
    {e : String × String} (h : e ∈ insertEntry name text entries) :
    e = (name, text) ∨ e ∈ entries := by
  induction entries with
  | nil => simpa [insertEntry] using h
  | cons head rest ih =>
    obtain ⟨other, old⟩ := head
    simp only [insertEntry] at h
    split at h
    · simpa using h
    · split at h
      · rcases List.mem_cons.1 h with h | h
        · exact .inr (h ▸ List.mem_cons_self ..)
        · exact (ih h).imp_right (List.mem_cons_of_mem _)
      · exact (List.mem_cons.1 h).imp_right (List.mem_cons_of_mem _)

theorem pairwise_insertEntry (name text : String) {entries : List (String × String)}
    (h : entries.Pairwise fun a b => a.1 < b.1) :
    (insertEntry name text entries).Pairwise fun a b => a.1 < b.1 := by
  induction entries with
  | nil => simp [insertEntry]
  | cons head rest ih =>
    obtain ⟨other, old⟩ := head
    obtain ⟨above, tail⟩ := List.pairwise_cons.1 h
    simp only [insertEntry]
    split
    next lt =>
      refine List.pairwise_cons.2 ⟨fun e he => ?_, h⟩
      rcases List.mem_cons.1 he with rfl | he
      · exact lt
      · exact String.lt_trans lt (above e he)
    next notLt =>
      split
      next gt =>
        refine List.pairwise_cons.2 ⟨fun e he => ?_, ih tail⟩
        rcases mem_insertEntry he with rfl | he
        · exact gt
        · exact above e he
      next notGt =>
        have same : name = other :=
          String.le_antisymm (String.not_lt.1 notGt) (String.not_lt.1 notLt)
        exact List.pairwise_cons.2 ⟨fun e he => same ▸ above e he, tail⟩

def empty : Dictionary :=
  ⟨[], .nil⟩

def insert (d : Dictionary) (name text : String) : Dictionary :=
  ⟨insertEntry name text d.entries, pairwise_insertEntry name text d.increasing⟩

/-- The dictionary of a list of entries; of two texts under one name the later stays. -/
def ofList (entries : List (String × String)) : Dictionary :=
  entries.foldl (fun d e => d.insert e.1 e.2) empty

def get? (d : Dictionary) (name : String) : Option String :=
  d.entries.lookup name

end Dictionary

end Storyboard
