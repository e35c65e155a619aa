import Storyboard.Proofs.Compile
import Storyboard.Proofs.Number.Digits
import Storyboard.Proofs.Scene.Normal

/-!
# Identifiers of segments

A segment goes by its own name, and by its number if it has none. Nothing keeps the two kinds of
names apart, and nothing keeps an author from using a name twice. Two segments of a scene have the
same identifier in these two cases and in no other.

## Main definitions

* `Clash`: two places at which segments go by one name.

## Main statements

* `nodup_names_iff`: names are different where there is no clash.
* `Scene.segment_ids_nodup_iff`: the same for the identifiers of compiled segments.
-/

namespace Storyboard

/-- The name that a segment goes by: its own, or else its number. -/
def Segment.nameAt (segment : Segment) (index : Nat) : String :=
  segment.id.getD (toString (index + 1))

/-- Segments at two places go by one name. -/
inductive Clash (segments : List Segment) : Nat → Nat → Prop
  /-- An author used the name for both. -/
  | repeated {i j : Nat} {earlier later : Segment} {name : String} (lt : i < j)
      (first : segments[i]? = some earlier) (named : earlier.id = some name)
      (second : segments[j]? = some later) (again : later.id = some name) : Clash segments i j
  /-- The name of one is the number of the other, which has no name. -/
  | numbered {i j : Nat} {other own : Segment}
      (first : segments[i]? = some other) (unnamed : other.id = none)
      (second : segments[j]? = some own) (named : own.id = some (toString (i + 1))) :
      Clash segments i j

section Names

variable {segments : List Segment}

theorem Clash.exists_nameAt {i j : Nat} (clash : Clash segments i j) :
    i ≠ j ∧ ∃ first second, segments[i]? = some first ∧ segments[j]? = some second ∧
      first.nameAt i = second.nameAt j := by
  cases clash with
  | repeated lt first named second again =>
    exact ⟨lt.ne, _, _, first, second, by rw [Segment.nameAt, Segment.nameAt, named, again]; rfl⟩
  | numbered first unnamed second named =>
    refine ⟨?_, _, _, first, second, by rw [Segment.nameAt, Segment.nameAt, unnamed, named]; rfl⟩
    rintro rfl
    grind

/-- Numbers of different places are different, so one of the names is an author's. -/
theorem exists_clash {i j : Nat} {earlier later : Segment} (lt : i < j)
    (first : segments[i]? = some earlier) (second : segments[j]? = some later)
    (same : earlier.nameAt i = later.nameAt j) : ∃ i j, Clash segments i j := by
  unfold Segment.nameAt at same
  cases here : earlier.id with
  | some name =>
    cases there : later.id with
    | some again =>
      obtain rfl : name = again := by simpa [here, there] using same
      exact ⟨i, j, .repeated lt first here second there⟩
    | none => exact ⟨j, i, .numbered second there first (by simpa [here, there] using same)⟩
  | none =>
    cases there : later.id with
    | some name =>
      exact ⟨i, j, .numbered first here second (by simpa [here, there] using same.symm)⟩
    | none =>
      have numbers : i + 1 = j + 1 := toString_nat_injective (by simpa [here, there] using same)
      omega

theorem nodup_names_iff :
    (segments.zipIdx.map fun entry => entry.1.nameAt entry.2).Nodup ↔
      ∀ i j, ¬Clash segments i j := by
  rw [List.nodup_iff_getElem?_ne_getElem?]
  constructor
  · intro distinct i j clash
    obtain ⟨ne, earlier, later, first, second, same⟩ := clash.exists_nameAt
    have bound := (List.getElem?_eq_some_iff.1 first).1
    have bound' := (List.getElem?_eq_some_iff.1 second).1
    rcases Nat.lt_or_gt_of_ne ne with lt | gt
    · exact distinct i j lt (by simpa using bound') (by simp [first, second, same])
    · exact distinct j i gt (by simpa using bound) (by simp [first, second, same])
  · intro free i j lt bound same
    obtain ⟨earlier, first⟩ : ∃ s, segments[i]? = some s :=
      ⟨_, List.getElem?_eq_getElem (by simp at bound; omega)⟩
    obtain ⟨later, second⟩ : ∃ s, segments[j]? = some s :=
      ⟨_, List.getElem?_eq_getElem (by simpa using bound)⟩
    obtain ⟨i, j, clash⟩ :=
      exists_clash lt first second (by simpa [first, second] using same)
    exact free i j clash

theorem isLone_iff : isLone segments ↔ ∃ segment, segments = [segment] ∧ segment.id = none := by
  unfold isLone
  split <;> simp_all

/-- A segment without a name that is alone goes by the path, and all others go by the path and their
names, so that the identifiers differ where the names do. -/
theorem nodup_segmentIds_iff (path : String) :
    (segments.zipIdx.map fun entry => segmentId path (isLone segments) entry.2 entry.1).Nodup ↔
      (segments.zipIdx.map fun entry => entry.1.nameAt entry.2).Nodup := by
  cases lone : isLone segments with
  | true =>
    obtain ⟨segment, rfl, -⟩ := isLone_iff.1 lone
    simp
  | false =>
    have within : Function.Injective (path ++ "/" ++ ·) := fun _ _ => (String.append_right_inj _).1
    have names : (segments.zipIdx.map fun entry => segmentId path false entry.2 entry.1) =
        (segments.zipIdx.map fun entry => entry.1.nameAt entry.2).map (path ++ "/" ++ ·) := by
      rw [List.map_map]
      rfl
    rw [names, List.nodup_map_iff within]

end Names

/-! ## Scenes -/

theorem Segment.id_opened (segment : Segment) : segment.opened.id = segment.id := by
  rcases segment.opened_eq_or with same | behind
  · rw [same]
  · rw [behind]

namespace Scene

variable {scene : Scene}

/-- An opening in front of its steps does not change what a segment goes by. -/
theorem names_normalSegments (scene : Scene) :
    (scene.normalSegments.zipIdx.map fun entry => entry.1.nameAt entry.2) =
      scene.sourceSegments.zipIdx.map fun entry => entry.1.nameAt entry.2 := by
  rw [normalSegments_eq_map, List.zipIdx_map, List.map_map]
  refine List.map_congr_left fun entry _ => ?_
  simp [Segment.nameAt, Segment.id_opened]

/-- The parts of a flat list have no names of their own. -/
theorem not_clash_of_flat (flat : scene.isSegmented = false) (i j : Nat) :
    ¬Clash scene.sourceSegments i j := by
  have unnamed : ∀ segment ∈ scene.sourceSegments, segment.id = none := by
    rw [sourceSegments, flat]
    simp [Step.split]
  intro clash
  cases clash with
  | repeated lt first named second again =>
    simp [unnamed _ (List.mem_of_getElem? first)] at named
  | numbered first _ second named =>
    simp [unnamed _ (List.mem_of_getElem? second)] at named

/-- A scene with a valid identifier compiles, and the identifiers of its segments are different if
and only if the author used no name twice, nor the number of a segment without a name. So they are
different for every flat list of steps. -/
theorem segment_ids_nodup_iff (language : String) {id : Identifier}
    (valid : scene.identifier = .ok id) :
    ∃ compiled, scene.compile language = .ok compiled ∧
      ((compiled.segments.map (·.id)).Nodup ↔ ∀ i j, ¬Clash scene.sourceSegments i j) ∧
      (scene.isSegmented = false → (compiled.segments.map (·.id)).Nodup) := by
  obtain ⟨compiled, compiles⟩ := exists_compile language valid
  have distinct : (compiled.segments.map (·.id)).Nodup ↔
      ∀ i j, ¬Clash scene.sourceSegments i j := by
    rw [ids_of_compile compiles, nodup_segmentIds_iff, names_normalSegments, nodup_names_iff]
  exact ⟨compiled, compiles, distinct, fun flat => distinct.2 (not_clash_of_flat flat)⟩

/-- A scene of three segments with the given names. -/
def ofNames (first second third : Option String) : Scene :=
  { id := "demo:lid"
    items := ["demo:lid"]
    segments := some [{ id := first }, { id := second }, { id := third }] }

/-- A number is no clash if the segment with that number has a name. -/
theorem segment_ids_nodup_own :
    ∃ compiled, (ofNames (some "2") (some "lid") none).compile "en_us" = .ok compiled ∧
      (compiled.segments.map (·.id)).Nodup ∧
      ∀ i j, ¬Clash (ofNames (some "2") (some "lid") none).sourceSegments i j := by
  have valid : (ofNames (some "2") (some "lid") none).identifier = .ok ⟨"demo", "lid"⟩ := by
    decide
  obtain ⟨compiled, compiles, distinct, -⟩ := segment_ids_nodup_iff "en_us" valid
  have ids : (compiled.segments.map (·.id)).Nodup := by
    rw [ids_of_compile compiles, nodup_segmentIds_iff]
    decide
  exact ⟨compiled, compiles, ids, distinct.1 ids⟩

/-- The first segment is called by the number of the second one. -/
theorem segment_ids_repeated :
    ∃ compiled, (ofNames (some "2") none (some "lid")).compile "en_us" = .ok compiled ∧
      compiled.segments.map (·.id) = ["lid/2", "lid/2", "lid/lid"] ∧
      ¬(compiled.segments.map (·.id)).Nodup :=
  ⟨_, rfl, by decide, by decide⟩

end Scene

end Storyboard
