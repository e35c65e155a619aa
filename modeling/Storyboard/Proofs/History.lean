import Storyboard.Proofs.Snapshot

/-!
# Undo and redo take each other back

A history never holds more snapshots than one stack may, so moving a snapshot from one stack to the
other has room, and only saving gives up the oldest one. What a number of undos went through is what
the same number of redos goes through the other way, if the lists are restored as they were and no
two neighbours among them have the same snapshot.

## Main definitions

* `History.Moves`: what moving between the stacks can do.
* `History.Reached`: the histories of sessions.
* `History.travel`: several moves in a row.
* `History.Retraces`: as many moves take several moves back.
* `History.Returns`: the condition for that on two neighbours.

## Main statements

* `History.moves_move`: a move does nothing else.
* `History.Reached.valid`: the invariant of sessions.
* `History.goesThrough_iff`: when redos go through the lists of given snapshots.
* `History.undo_redo_inverse_iff`: when undo and redo are inverse to each other.
-/

namespace Storyboard

open Step (IsLoaded)

/-- The snapshot was taken of a loaded list. -/
def Snapshot.IsTaken (snapshot : Snapshot) : Prop :=
  ∃ steps, IsLoaded steps ∧ take steps = snapshot

namespace History

open Snapshot (take IsTaken)

/-! ## Moves between stacks -/

/-- What a move from the stack `source` to the stack `target` can do, with `current` as the list
that it starts from: the list that it gives, if any, and both stacks after it. -/
inductive Moves (source target : List Snapshot) (current : List Step) :
    Option (List Step) → List Snapshot → List Snapshot → Prop where
  /-- There are only snapshots of the current list, which are dropped. -/
  | stay (n : Nat) (all : source = List.replicate n (take current)) :
    Moves source target current none [] target
  /-- The first other snapshot is restored, and one of the current list takes its place on the other
  stack, on top of all that were there. -/
  | go (n : Nat) (top : Snapshot) (steps : List Step) (rest : List Snapshot)
    (changed : top ≠ take current) (restored : top.restore? = some steps)
    (split : source = List.replicate n (take current) ++ top :: rest) :
    Moves source target current (some steps) rest (take current :: target)

variable {source target rest : List Snapshot} {current steps : List Step}

theorem push_of_lt (room : target.length < maxDepth) (snapshot : Snapshot) :
    push snapshot target = snapshot :: target := by
  refine List.take_of_length_le ?_
  rw [List.length_cons]
  omega

theorem exists_replicate_append (source : List Snapshot) (now : Snapshot) :
    ∃ n, source = List.replicate n now ++ source.dropWhile (· = now) := by
  have same : source.takeWhile (· = now) = List.replicate _ now :=
    List.eq_replicate_iff.2 ⟨rfl, fun snapshot mem => by simpa using List.mem_takeWhile_imp mem⟩
  refine ⟨(source.takeWhile (· = now)).length, ?_⟩
  rw [← same, List.takeWhile_append_dropWhile]

/-- A move does nothing else if one stack has room for the snapshots of both. -/
theorem moves_move (taken : ∀ snapshot ∈ source, snapshot.IsTaken)
    (room : source.length + target.length ≤ maxDepth) (current : List Step) :
    Moves source target current (move source target current).1 (move source target current).2.1
      (move source target current).2.2 := by
  obtain ⟨n, split⟩ := exists_replicate_append source (take current)
  cases left : source.dropWhile (· = take current) with
  | nil =>
    rw [left, List.append_nil] at split
    simp only [move, left]
    exact .stay n split
  | cons top rest =>
    rw [left] at split
    obtain ⟨steps, loaded, rfl⟩ := taken top (by rw [split]; simp)
    have restored := Snapshot.restore?_take loaded
    have changed : take steps ≠ take current := by
      simpa [left] using List.dropWhile_get_zero_not (· = take current) source (by simp [left])
    have lengths := congrArg List.length split
    rw [List.length_append, List.length_cons] at lengths
    have pushed : push (take current) target = take current :: target := push_of_lt (by omega) _
    simp only [move, left, restored, pushed]
    exact .go n (take steps) _ rest changed restored split

/-- A snapshot of another list on top is restored. -/
theorem move_cons {top : Snapshot} (changed : top ≠ take current)
    (restored : top.restore? = some steps) (room : target.length < maxDepth) :
    move (top :: rest) target current = (some steps, rest, take current :: target) := by
  simp [move, changed, restored, push_of_lt room]

/-- A snapshot of the current list on top is dropped. -/
theorem move_cons_self : move (take current :: rest) target current = move rest target current := by
  simp [move]

/-- A move that gives a list takes at least its snapshot off the stack. -/
theorem length_lt_of_move (went : (move source target current).1 = some steps) :
    (move source target current).2.1.length < source.length := by
  have shorter := (List.dropWhile_sublist (· = take current) (l := source)).length_le
  cases left : source.dropWhile (· = take current) with
  | nil => simp [move, left] at went
  | cons top rest =>
    rw [left, List.length_cons] at shorter
    cases restored : top.restore? with
    | none => simp [move, left, restored] at went
    | some list =>
      simp only [move, left, restored]
      omega

/-! ## Sessions -/

/-- All snapshots were taken of loaded lists, and both stacks together are no longer than one of
them may be. -/
structure Valid (history : History) : Prop where
  past : ∀ snapshot ∈ history.past, snapshot.IsTaken
  future : ∀ snapshot ∈ history.future, snapshot.IsTaken
  room : history.past.length + history.future.length ≤ maxDepth

/-- The history with its stacks exchanged: redo is undo there. -/
def swap (history : History) : History :=
  ⟨history.future, history.past⟩

variable {history later : History}

theorem Valid.swap (valid : history.Valid) : history.swap.Valid :=
  ⟨valid.future, valid.past, by simpa [History.swap, Nat.add_comm] using valid.room⟩

theorem Valid.moves_undo (valid : history.Valid) (current : List Step) :
    Moves history.past history.future current (history.undo current).1
      (history.undo current).2.past (history.undo current).2.future :=
  moves_move valid.past valid.room current

theorem Valid.moves_redo (valid : history.Valid) (current : List Step) :
    Moves history.future history.past current (history.redo current).1
      (history.redo current).2.future (history.redo current).2.past :=
  valid.swap.moves_undo current

theorem valid_undo (valid : history.Valid) (loaded : IsLoaded current) :
    (history.undo current).2.Valid := by
  have moves := valid.moves_undo current
  revert moves
  generalize history.undo current = result
  obtain ⟨given, past, future⟩ := result
  rintro (⟨n, all⟩ | ⟨n, top, steps, rest, -, -, split⟩)
  · refine ⟨by simp, valid.future, ?_⟩
    exact Nat.le_trans (Nat.add_le_add_right (Nat.zero_le _) _) valid.room
  · obtain ⟨old, other, room⟩ := valid
    rw [split] at old room
    refine ⟨fun snapshot mem => old snapshot (by simp [mem]), ?_, ?_⟩
    · exact List.forall_mem_cons.2 ⟨⟨current, loaded, rfl⟩, other⟩
    · simp only [List.length_append, List.length_cons] at room ⊢
      omega

theorem valid_redo (valid : history.Valid) (loaded : IsLoaded current) :
    (history.redo current).2.Valid :=
  (valid_undo valid.swap loaded).swap

/-- Saving gives up the oldest snapshot when the stack is full. -/
theorem Valid.past_save (valid : history.Valid) (steps : List Step) :
    (history.save steps).past =
      take steps ::
        if history.past.length = maxDepth then history.past.dropLast else history.past := by
  have room := valid.room
  split
  next full =>
    rw [List.dropLast_eq_take, full]
    rfl
  next => exact push_of_lt (by omega) (take steps)

theorem valid_save (valid : history.Valid) (loaded : IsLoaded steps) :
    (history.save steps).Valid := by
  refine ⟨fun snapshot mem => ?_, by simp [History.save], ?_⟩
  · rcases List.mem_cons.1 (List.mem_of_mem_take mem) with rfl | old
    · exact ⟨steps, loaded, rfl⟩
    · exact valid.past snapshot old
  · simp [History.save, push]

/-- The histories that any number of calls lead to, each with a loaded list of its own. -/
inductive Reached : History → Prop where
  | new : Reached {}
  | save {history : History} {steps : List Step} (before : Reached history)
    (loaded : IsLoaded steps) : Reached (history.save steps)
  | undo {history : History} {current : List Step} (before : Reached history)
    (loaded : IsLoaded current) : Reached (history.undo current).2
  | redo {history : History} {current : List Step} (before : Reached history)
    (loaded : IsLoaded current) : Reached (history.redo current).2

theorem Reached.valid (reached : Reached history) : history.Valid := by
  induction reached with
  | new => exact ⟨by simp, by simp, Nat.zero_le _⟩
  | save before loaded valid => exact valid_save valid loaded
  | undo before loaded valid => exact valid_undo valid loaded
  | redo before loaded valid => exact valid_redo valid loaded

/-! ## Several moves in a row -/

/-- Moves `k` times, each time from the list that the move before gave. The result is made up of the
lists on the way and the history after it; there is none if one of the moves gives no list. -/
def travel (move : History → List Step → Option (List Step) × History) :
    Nat → History → List Step → Option (List (List Step) × History)
  | 0, history, _ => some ([], history)
  | k + 1, history, current => match move history current with
    | (none, _) => none
    | (some steps, later) =>
      (travel move k later steps).map fun (visited, last) => (steps :: visited, last)

section Travel

variable {go : History → List Step → Option (List Step) × History} {k : Nat}
  {visited : List (List Step)} {final : History} {last : List Step}

theorem travel_succ :
    travel go (k + 1) history current = some (visited, final) ↔
      ∃ steps later tail, go history current = (some steps, later) ∧
        travel go k later steps = some (tail, final) ∧ visited = steps :: tail := by
  rw [travel]
  rcases went : go history current with ⟨_ | steps, later⟩
  · simp
  · simp only [Option.map_eq_some_iff, Prod.exists, Prod.mk.injEq, Option.some.injEq]
    grind

/-- Redos are undos with the stacks exchanged. -/
theorem travel_redo (k : Nat) (history : History) (current : List Step) :
    travel redo k history current =
      (travel undo k history.swap current).map (Prod.map id swap) := by
  induction k generalizing history current with
  | zero => rfl
  | succ k ih =>
    have exchanged : history.redo current = Prod.map id swap (history.swap.undo current) := rfl
    rw [travel, travel, exchanged]
    rcases history.swap.undo current with ⟨_ | steps, later⟩
    · rfl
    · simp only [Prod.map_apply, id, ih, Option.map_map]
      rfl

theorem travel_undo (k : Nat) (history : History) (current : List Step) :
    travel undo k history current =
      (travel redo k history.swap current).map (Prod.map id swap) := by
  rw [travel_redo, Option.map_map]
  exact (congrFun Option.map_id _).symm

/-- After undos, the snapshots of the lists that were left are ahead, the last one on top. -/
theorem future_of_travel_undo (valid : history.Valid) (loaded : IsLoaded current)
    (undone : travel undo k history current = some (visited, later)) :
    ∃ last rest, (current :: visited).reverse = last :: rest ∧ rest.length = k ∧
      later.future = rest.map take ++ history.future ∧ later.Valid ∧
      ∀ list ∈ last :: rest, IsLoaded list := by
  induction k generalizing history current visited with
  | zero =>
    obtain ⟨rfl, rfl⟩ : visited = [] ∧ later = history := by simpa [travel, eq_comm] using undone
    exact ⟨current, [], rfl, rfl, rfl, valid, by simpa using loaded⟩
  | succ k ih =>
    obtain ⟨steps, between, tail, went, more, rfl⟩ := travel_succ.1 undone
    have moves := valid.moves_undo current
    have valid' := valid_undo valid loaded
    rw [went] at moves valid'
    obtain ⟨past, future⟩ := between
    cases moves with
    | go n top _ _ changed restored split =>
      obtain ⟨last, rest, way, length, ahead, valid'', all⟩ :=
        ih valid' (Snapshot.isLoaded_of_restore? restored) more
      refine ⟨last, rest ++ [current], ?_, by simp [length], by simp [ahead], valid'', ?_⟩
      · rw [List.reverse_cons, way]
        rfl
      · rw [← List.cons_append]
        simpa [or_imp, forall_and, loaded] using all

/-- A list that is left for another one and can be returned to: its numbers read back, and the two
differ. -/
def Returns (left next : List Step) : Prop :=
  Step.ReadBack left ∧ ¬List.Forall₂ Step.Equal left next

instance (left next : List Step) : Decidable (Returns left next) :=
  inferInstanceAs (Decidable (_ ∧ _))

theorem returns_iff (loaded : IsLoaded current) (loaded' : IsLoaded steps) :
    Returns current steps ↔ Step.ReadBack current ∧ take current ≠ take steps := by
  rw [Returns, ne_eq, Snapshot.take_eq_iff loaded loaded']

/-- A redo that gives a list takes at least its snapshot off the stack ahead. -/
theorem length_lt_of_redo (went : history.redo current = (some steps, later)) :
    later.future.length < history.future.length := by
  have result : (history.redo current).2.future = later.future := by rw [went]
  rw [← result]
  exact length_lt_of_move (congrArg Prod.fst went)

theorem redo_cons_self {past rest : List Snapshot} :
    (History.mk past (take current :: rest)).redo current =
      (History.mk past rest).redo current := by
  rw [redo, move_cons_self, redo]

theorem length_of_travel_redo (redone : travel redo k history current = some (visited, final)) :
    final.future.length + k ≤ history.future.length := by
  induction k generalizing history current visited with
  | zero =>
    obtain ⟨rfl, rfl⟩ : visited = [] ∧ final = history := by simpa [travel, eq_comm] using redone
    exact Nat.le_refl _
  | succ k ih =>
    obtain ⟨steps, between, tail, went, more, rfl⟩ := travel_succ.1 redone
    have one := length_lt_of_redo went
    have others := ih more
    omega

/-- Redos go through lists whose snapshots are ahead exactly when each of these lists can be
returned to from the one before. -/
theorem goesThrough_iff {lists : List (List Step)} {ahead : List Snapshot} (valid : history.Valid)
    (stack : history.future = lists.map take ++ ahead) (loaded : IsLoaded current)
    (all : ∀ list ∈ last :: lists, IsLoaded list) (here : take current = take last) :
    (∃ back final, travel redo lists.length history current = some (back, final) ∧
        List.Forall₂ (List.Forall₂ Step.Equal) back lists ∧ final.future = ahead) ↔
      (last :: lists).IsChain fun next left => Returns left next := by
  induction lists generalizing history current last with
  | nil => simpa [travel] using stack
  | cons list lists ih =>
    obtain ⟨past, future⟩ := history
    obtain rfl : future = take list :: (lists.map take ++ ahead) := stack
    have room := valid.room
    rw [List.length_cons] at room
    obtain ⟨loadedLast, all⟩ := List.forall_mem_cons.1 all
    obtain ⟨loadedList, -⟩ := List.forall_mem_cons.1 all
    rw [List.isChain_cons_cons, returns_iff loadedList loadedLast]
    by_cases same : take list = take last
    · -- The snapshot is passed over, so that as many redos take off one snapshot too many.
      refine iff_of_false ?_ fun chain => chain.1.2 same
      rintro ⟨back, final, redone, -, rfl⟩
      obtain ⟨steps, between, tail, went, more, rfl⟩ := travel_succ.1 redone
      rw [same, ← here, redo_cons_self] at went
      have one := length_lt_of_redo went
      have others := length_of_travel_redo more
      simp only [List.length_append, List.length_map] at one
      omega
    · have restored := Snapshot.restore?_take loadedList
      have again : (History.mk past (take list :: (lists.map take ++ ahead))).redo current =
          (some (Step.reread list), ⟨take current :: past, lists.map take ++ ahead⟩) := by
        rw [redo, move_cons (here ▸ same) restored (by omega)]
      have valid' := valid_redo valid loaded
      rw [again] at valid'
      have tail (back : Step.ReadBack list) := ih valid' rfl
        (Snapshot.isLoaded_of_restore? restored) all ((Snapshot.take_reread_iff loadedList).2 back)
      constructor
      · rintro ⟨back, final, redone, equal, ends⟩
        obtain ⟨steps, between, others, went, more, rfl⟩ := travel_succ.1 redone
        rw [again] at went
        obtain ⟨rfl, rfl⟩ : Step.reread list = steps ∧ _ = between := by simpa using went
        obtain ⟨first, equal⟩ := List.forall₂_cons.1 equal
        have back := (Step.forall₂_equal_reread_iff loadedList.stored).1 first
        exact ⟨⟨back, same⟩, (tail back).1 ⟨others, final, more, equal, ends⟩⟩
      · rintro ⟨⟨back, -⟩, chain⟩
        obtain ⟨others, final, more, equal, ends⟩ := (tail back).2 chain
        have first := (Step.forall₂_equal_reread_iff loadedList.stored).2 back
        exact ⟨_, final, travel_succ.2 ⟨_, _, others, again, more, rfl⟩, .cons first equal, ends⟩

/-- From the last of the lists, `k` moves go through the others in the reverse order, and leave
ahead what was ahead before all of this. -/
def Retraces (go : History → List Step → Option (List Step) × History)
    (ahead : History → List Snapshot) (k : Nat) (before after : History)
    (lists : List (List Step)) : Prop :=
  ∃ last rest back final, lists.reverse = last :: rest ∧
    travel go k after last = some (back, final) ∧
    List.Forall₂ (List.Forall₂ Step.Equal) back rest ∧ ahead final = ahead before

theorem retraces_redo_iff (valid : history.Valid) (loaded : IsLoaded current)
    (undone : travel undo k history current = some (visited, later)) :
    Retraces redo future k history later (current :: visited) ↔
      (current :: visited).IsChain Returns := by
  obtain ⟨last, rest, way, rfl, ahead, valid', all⟩ := future_of_travel_undo valid loaded undone
  rw [← List.isChain_reverse (R := fun next left => Returns left next), way,
    ← goesThrough_iff valid' ahead (all last (by simp)) all rfl]
  simp [Retraces, way]

theorem retraces_undo {lists : List (List Step)} :
    Retraces undo past k history later lists ↔
      Retraces redo future k history.swap later.swap lists := by
  constructor
  · rintro ⟨last, rest, back, final, way, undone, equal, same⟩
    rw [travel_undo, Option.map_eq_some_iff] at undone
    obtain ⟨⟨back, final⟩, redone, rfl, rfl⟩ := undone
    exact ⟨last, rest, back, final, way, redone, equal, same⟩
  · rintro ⟨last, rest, back, final, way, redone, equal, same⟩
    refine ⟨last, rest, back, final.swap, way, ?_, equal, same⟩
    rw [travel_undo, redone]
    rfl

/-- If all lists of a session read back, each of those that undos go through can be returned to. -/
theorem isChain_returns (valid : history.Valid) (loaded : IsLoaded current)
    (back : Step.ReadBack current)
    (kept : ∀ steps, IsLoaded steps → take steps ∈ history.past → Step.ReadBack steps)
    (undone : travel undo k history current = some (visited, later)) :
    (current :: visited).IsChain Returns := by
  induction k generalizing history current visited with
  | zero =>
    obtain ⟨rfl, -⟩ : visited = [] ∧ later = history := by simpa [travel, eq_comm] using undone
    exact .singleton current
  | succ k ih =>
    obtain ⟨steps, between, tail, went, more, rfl⟩ := travel_succ.1 undone
    have moves := valid.moves_undo current
    have valid' := valid_undo valid loaded
    rw [went] at moves valid'
    obtain ⟨past, future⟩ := between
    cases moves with
    | go n top _ _ changed restored split =>
      have inside : top ∈ history.past := by simp [split]
      obtain ⟨list, loadedList, rfl⟩ := valid.past top inside
      have backList := kept list loadedList inside
      have loaded' := Snapshot.isLoaded_of_restore? restored
      rw [Snapshot.restore?_take loadedList, Option.some.injEq] at restored
      subst restored
      have differ : take current ≠ take (Step.reread list) := by
        rw [(Snapshot.take_reread_iff loadedList).2 backList]
        exact changed.symm
      refine List.isChain_cons_cons.2 ⟨(returns_iff loaded loaded').2 ⟨back, differ⟩, ?_⟩
      refine ih valid' loaded' (Snapshot.readBack_reread loadedList backList) ?_ more
      exact fun steps loaded mem => kept steps loaded (by simp [split, mem])

end Travel

/-- Along every session both stacks together hold at most fifty snapshots. So an undo or a redo
keeps all of them but snapshots of the current list and the one that it restores, and only saving
gives one up, the oldest of fifty. From every list, as many redos as undos go back through equal
lists to an equal list and leave what could be redone as it was exactly when each list on the way
but the last reads back and differs from the next. This is so whenever all lists of the session
read back. The same holds with undo and redo exchanged. -/
theorem undo_redo_inverse_iff {history : History} (reached : Reached history) :
    history.past.length + history.future.length ≤ 50 ∧
      (∀ current,
        Moves history.past history.future current (history.undo current).1
            (history.undo current).2.past (history.undo current).2.future ∧
          Moves history.future history.past current (history.redo current).1
            (history.redo current).2.future (history.redo current).2.past) ∧
      (∀ steps, (history.save steps).past = take steps ::
        if history.past.length = 50 then history.past.dropLast else history.past) ∧
      ∀ current, IsLoaded current → ∀ k visited later,
        (travel undo k history current = some (visited, later) →
          (Retraces redo future k history later (current :: visited) ↔
            (current :: visited).IsChain Returns) ∧
          (Step.ReadBack current →
            (∀ steps, IsLoaded steps → take steps ∈ history.past → Step.ReadBack steps) →
            (current :: visited).IsChain Returns)) ∧
        (travel redo k history current = some (visited, later) →
          (Retraces undo past k history later (current :: visited) ↔
            (current :: visited).IsChain Returns) ∧
          (Step.ReadBack current →
            (∀ steps, IsLoaded steps → take steps ∈ history.future → Step.ReadBack steps) →
            (current :: visited).IsChain Returns)) := by
  have valid := reached.valid
  refine ⟨valid.room, fun current => ⟨valid.moves_undo current, valid.moves_redo current⟩,
    valid.past_save, fun current loaded k visited later => ⟨fun undone => ?_, fun redone => ?_⟩⟩
  · exact ⟨retraces_redo_iff valid loaded undone,
      fun back kept => isChain_returns valid loaded back kept undone⟩
  · rw [travel_redo, Option.map_eq_some_iff] at redone
    obtain ⟨⟨visited, later⟩, undone, rfl, rfl⟩ := redone
    exact ⟨retraces_undo.trans (retraces_redo_iff valid.swap loaded undone),
      fun back kept => isChain_returns valid.swap loaded back kept undone⟩

/-- A turn of the camera. -/
def turn (degrees : Double) : List Step :=
  [⟨false, .rotateCamera (some degrees)⟩]

/-- A quarter of a right angle. -/
def slant : Double :=
  .finite false 6333186975989760 (-48) (by decide)

/-- Three saved lists. -/
def drafts : History :=
  ((History.save {} []).save [.blank]).save (turn slant)

/-- The last saved list is the current one, so its snapshot is passed over. -/
theorem undo_redo_inverse_drafts :
    Reached drafts ∧
      ∃ later, travel undo 2 drafts (turn slant) = some ([[.blank], []], later) ∧
        Retraces redo future 2 drafts later [turn slant, [.blank], []] := by
  have empty : IsLoaded [] := ⟨.array [], rfl⟩
  have single : IsLoaded [.blank] := ⟨.array [.null], rfl⟩
  have turned : IsLoaded (turn slant) := by
    refine ⟨.array [.object [("type", .string "rotate_camera"), ("degrees", .string "22.5")]], ?_⟩
    decide +kernel
  have reached : Reached drafts := .save (.save (.save .new empty) single) turned
  have undone : travel undo 2 drafts (turn slant) =
      some ([[.blank], []], ⟨[], [take [.blank], take (turn slant)]⟩) := by
    decide +kernel
  have chain : [turn slant, [.blank], []].IsChain Returns := by
    decide +kernel
  have inverse := ((undo_redo_inverse_iff reached).2.2.2 _ turned 2 _ _).1 undone
  exact ⟨reached, _, undone, inverse.1.2 chain⟩

/-- The number nearest to 107.89495650692935, or the next one. -/
def nearDegrees (next : Bool) : Double :=
  if next then .finite false 7592432592496296 (-46) (by decide)
  else .finite false 7592432592496295 (-46) (by decide)

/-- The text of this number is read as the next number, so that one redo does not take one undo
back. -/
theorem undo_redo_inverse_neighbour :
    Reached (History.save {} []) ∧
      (Json.parse? "[\x7b\"type\": \"rotate_camera\", \"degrees\": 107.89495650692934\x7d]").bind
        Step.listOfJson? = some (turn (nearDegrees false)) ∧
      travel undo 1 (History.save {} []) (turn (nearDegrees false)) =
        some ([[]], ⟨[], [take (turn (nearDegrees false))]⟩) ∧
      travel redo 1 ⟨[], [take (turn (nearDegrees false))]⟩ [] =
        some ([turn (nearDegrees true)], ⟨[take []], []⟩) ∧
      ¬List.Forall₂ Step.Equal (turn (nearDegrees true)) (turn (nearDegrees false)) := by
  refine ⟨.save .new ⟨.array [], rfl⟩, ?_⟩
  decide +kernel

end History

end Storyboard
