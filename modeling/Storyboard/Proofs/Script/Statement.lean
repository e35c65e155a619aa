import Storyboard.Proofs.Json.Fields
import Storyboard.Proofs.Script.Assignment

/-!
# Statements are determined by calls

A trace and a script fill in what a step leaves out, each by itself. The statement that the script
has for a step depends on nothing but the call that the trace makes: steps that ask for the same
call in different words, at different places of different segments, have the same statement.

## Main definitions

* `Call.Same`: calls with equal arguments.
* `Script.callText`: the statements of a step without the assignments in front.
* `Script.Holds`: the variable that holds a section of the trace.

## Main statements

* `Script.plainLines_of_same`, `Script.bareLine_of_same`: calls with equal arguments have equal
  statements.
* `Script.callText_eq`: the statements of a step are those of its call.
* `call_text_determined`: the same for two steps anywhere, and for the ticks of a wait.
-/

namespace Storyboard

open Naming (Making)

/-! ## Equal arguments -/

/-- The coordinates without the signs of zeros. -/
def Vec3.unsigned (v : Vec3) : Vec3 :=
  v.map Binary.dropZeroSign

def Facing.unsigned : Facing → Facing
  | .usual => .usual
  | .angles yaw pitch => .angles yaw.dropZeroSign pitch.dropZeroSign
  | .lookAt target => .lookAt target.unsigned

/-- The call without the signs of zeros among its numbers. -/
def PlainCall.unsigned : PlainCall → PlainCall
  | .showStructure height scale => .showStructure height (scale.map Binary.dropZeroSign)
  | .showText duration words point style => .showText duration words point.unsigned style
  | .showSharedText duration key point style => .showSharedText duration key point.unsigned style
  | .rotateCamera degrees => .rotateCamera degrees.dropZeroSign
  | .showControls duration point pointing action item =>
    .showControls duration point.unsigned pointing action item
  | .playSound sound source volume pitch =>
    .playSound sound source volume.dropZeroSign pitch.dropZeroSign
  | .createEntity entity pos facing => .createEntity entity pos.unsigned facing.unsigned
  | .createItemEntity item pos motion count =>
    .createItemEntity item pos.unsigned motion.unsigned count
  | call => call

/-- Two calls have equal arguments. A zero equals a zero whatever its sign, and patches are equal
when their texts are. -/
inductive PlainCall.Same : PlainCall → PlainCall → Prop
  | arguments {call call' : PlainCall} (equal : call.unsigned = call'.unsigned) : Same call call'
  | patch (blocks : Selection) (redraw : Bool) {patch patch' : Tag}
      (equal : patch.text = patch'.text) :
      Same (.modifyBlockEntity blocks patch redraw) (.modifyBlockEntity blocks patch' redraw)

/-- Two calls have equal arguments, where `R` compares sections. The section that a call makes is a
result and no argument. -/
inductive LinkedCall.Same {σ τ : Type} (R : σ → τ → Prop) : LinkedCall σ → LinkedCall τ → Prop
  | detach (blocks : Selection) (direction : Direction) (target : σ) (target' : τ) :
    Same R (.detach blocks direction target) (.detach blocks direction target')
  | merge (blocks : Selection) (direction : Direction) {target : σ} {target' : τ}
      (equal : R target target') :
    Same R (.merge blocks direction target) (.merge blocks direction target')
  | hide (direction : Direction) {target : σ} {target' : τ} (equal : R target target') :
    Same R (.hide target direction) (.hide target' direction)
  | rotate (duration : Nat) {target : σ} {target' : τ} {rotation rotation' : Vec3}
      (equal : R target target') (turns : rotation.unsigned = rotation'.unsigned) :
    Same R (.rotate target rotation duration) (.rotate target' rotation' duration)
  | move (duration : Nat) {target : σ} {target' : τ} {offset offset' : Vec3}
      (equal : R target target') (moves : offset.unsigned = offset'.unsigned) :
    Same R (.move target offset duration) (.move target' offset' duration)

/-- Two calls have equal arguments, where `R` compares sections. -/
inductive Call.Same {σ τ : Type} (R : σ → τ → Prop) : Call σ → Call τ → Prop
  | plain {call call' : PlainCall} (same : call.Same call') : Same R (.plain call) (.plain call')
  | linked {call : LinkedCall σ} {call' : LinkedCall τ} (same : call.Same R call') :
    Same R (.linked call) (.linked call')

theorem LinkedCall.Same.of_map {σ σ' τ τ' : Type} {f : σ → τ} {f' : σ' → τ'} {R : τ → τ' → Prop}
    {call : LinkedCall σ} {call' : LinkedCall σ'} (same : (call.map f).Same R (call'.map f')) :
    call.Same (fun target target' => R (f target) (f' target')) call' := by
  cases call <;> cases call' <;> cases same <;> constructor <;> assumption

namespace Script

/-! ## Statements of calls -/

theorem numberText_of_dropZeroSign {x y : Double} (equal : x.dropZeroSign = y.dropZeroSign) :
    numberText x = numberText y := by
  rw [← numberText_dropZeroSign x, equal, numberText_dropZeroSign]

theorem text_unsigned (v : Vec3) : v.unsigned.text = v.text := by
  simp only [Vec3.text, Vec3.unsigned, Vec3.map, numberText_dropZeroSign]

theorem pointText_unsigned (v : Vec3) : pointText v.unsigned = pointText v := by
  rw [pointText, pointText, text_unsigned]

theorem facingText_unsigned (facing : Facing) : facingText facing.unsigned = facingText facing := by
  unfold facingText Facing.unsigned turnText
  cases facing with
  | usual => rfl
  | angles yaw pitch => simp only [Option.getD_some, numberText_dropZeroSign]
  | lookAt target => simp only [pointText_unsigned]

theorem plainLines_unsigned (call : PlainCall) : plainLines call.unsigned = plainLines call := by
  cases call with
  | showStructure height scale => cases scale <;> simp [PlainCall.unsigned, plainLines,
      numberText_dropZeroSign]
  | showText | showSharedText | rotateCamera | showControls | playSound | createEntity
  | createItemEntity =>
    simp only [PlainCall.unsigned, plainLines, numberText_dropZeroSign, text_unsigned,
      pointText_unsigned, facingText_unsigned]
  | _ => rfl

theorem plainLines_of_same {call call' : PlainCall} (same : call.Same call') :
    plainLines call = plainLines call' := by
  cases same with
  | arguments equal => rw [← plainLines_unsigned, equal, plainLines_unsigned]
  | patch blocks redraw equal => simp only [plainLines, equal]

/-- The statement of a call about a section, without an assignment in front. -/
def bareLine : LinkedCall String → String
  | .detach blocks direction _ =>
    statement "scene.world.showIndependentSection" [selectionText blocks, directionText direction]
  | call => linkedLine naming.start call

/-- The statements of a call, if there is one, without an assignment in front. -/
def bareLines : Option (Call String) → List String
  | none => []
  | some (.plain call) => plainLines call
  | some (.linked call) => [bareLine call]

/-- The statement names a section that the call uses, and does not name one that it makes. -/
theorem bareLine_of_same {σ τ : Type} {R : σ → τ → Prop} {call : LinkedCall σ}
    {call' : LinkedCall τ} {f : σ → String} {f' : τ → String} (same : call.Same R call')
    (names : call.makes = false → call'.makes = false → R call.target call'.target →
      f call.target = f' call'.target) :
    bareLine (call.map f) = bareLine (call'.map f') := by
  cases same with
  | detach => rfl
  | @merge blocks direction target target' equal | @hide direction target target' equal =>
    have name : f target = f' target' := names rfl rfl equal
    simp only [LinkedCall.map, bareLine, linkedLine, name]
  | @rotate duration target target' rotation rotation' equal turns =>
    have name : f target = f' target' := names rfl rfl equal
    obtain ⟨x, y, z⟩ := Vec3.mk.inj turns
    simp only [LinkedCall.map, bareLine, linkedLine, name, numberText_of_dropZeroSign x,
      numberText_of_dropZeroSign y, numberText_of_dropZeroSign z]
  | @move duration target target' offset offset' equal moves =>
    have name : f target = f' target' := names rfl rfl equal
    have point : pointText offset = pointText offset' := by
      rw [← pointText_unsigned, moves, pointText_unsigned]
    simp only [LinkedCall.map, bareLine, linkedLine, name, point]

/-! ## Statements of steps -/

/-- The line without the assignment that it starts with. -/
def withoutAssignment (line : String) : String :=
  if (assigned? line).isSome then
    -- After the variable there is an equals sign between blanks.
    String.ofList (((withoutLet line.toList).dropWhile isVariableChar).drop 3)
  else line

/-- The statements of the step at an index, without marks and without assignments in front. -/
def callText (steps : List Step) (i : Nat) : List String :=
  (((lines steps)[i]?.getD []).filter (· ≠ markLine)).map withoutAssignment

theorem withoutAssignment_of_none {line : String} (h : assigned? line = none) :
    withoutAssignment line = line := by
  rw [withoutAssignment, h]
  rfl

theorem withoutAssignment_linkedLine {call : LinkedCall String} (var : IsVariable call.target)
    (names : Names) : withoutAssignment (linkedLine names call) = bareLine call := by
  cases call with
  | detach blocks direction target =>
    change IsVariable target at var
    rw [linkedLine, withoutAssignment, assigned?_assignment var, withoutLet_assignment var,
      dropWhile_run var.chars (by simp [isVariableChar])]
    exact String.ofList_toList
  | merge | hide | rotate | move =>
    exact withoutAssignment_of_none (assigned?_linkedLine var names)

theorem map_withoutAssignment_callLines (names : Names) {call : Option (Call String)}
    (var : ∀ linked, call = some (.linked linked) → IsVariable linked.target) :
    ((callLines names call).filter (· ≠ markLine)).map withoutAssignment = bareLines call := by
  rcases call with _ | (plain | linked)
  · rfl
  · have lines : ∀ line ∈ plainLines plain, line ≠ markLine ∧ withoutAssignment line = line :=
      fun line mem =>
        have plain := isPlain_of_mem_plainLines mem
        ⟨plain.ne_markLine, withoutAssignment_of_none plain.assigned?_eq_none⟩
    simp only [callLines, bareLines]
    rw [List.filter_eq_self.2 fun line mem => decide_eq_true (lines line mem).1,
      List.map_congr_left fun line mem => (lines line mem).2, List.map_id']
  · simp [callLines, bareLines, linkedLine_ne_markLine,
      withoutAssignment_linkedLine (var linked rfl)]

/-- The statements of a step are those of its call, with variables for the histories of sections. -/
theorem callText_eq {steps : List Step} {i : Nat} {event : Event Making (List Link)}
    {call : Option (Call Making)} (at_ : (Makings.events steps)[i]? = some event)
    (result : event.result = .ok call) :
    callText steps i = bareLines (call.map (Call.map naming.name)) := by
  rw [Makings.getElem?_events, Option.map_eq_some_iff] at at_
  obtain ⟨step, at_, rfl⟩ := at_
  obtain ⟨after, applied⟩ : ∃ after,
      (Makings.stage steps i).apply .history step.op = .ok (call, after) :=
    Stage.event_result_eq_ok_iff.1 result
  have written := Stage.apply_map naming.maps_history (Makings.stage steps i) step.op
  rw [applied, ← contextAfter_eq_map] at written
  have marks : (if step.isMarked then [markLine] else []).filter (· ≠ markLine) = [] := by
    split <;> simp
  rw [callText, lines, getElem?_linesFrom, at_, Option.map_some, Option.getD_some,
    emit_of_ok written, List.filter_append, marks, List.nil_append,
    map_withoutAssignment_callLines]
  intro linked equal
  rcases call with _ | (plain | linked')
  · cases equal
  · cases equal
  · obtain rfl := Call.linked.inj (Option.some.inj equal)
    exact isVariable_target_map linked'

end Script

/-! ## Both -/

/-- A variable holds a section of the trace: the step that makes the section assigns it. -/
def Script.Holds (steps : List Step) (k : Nat) (x : String) : Prop :=
  ∃ m, Trace.made? steps m = some k ∧ Script.assigned steps m = [x]

theorem Script.Holds.eq_name {steps : List Step} {i : Nat} {used : Making} {x : String}
    (holds : Script.Holds steps used.1.length x) (uses : Makings.used? steps i = some used) :
    x = Script.naming.name used := by
  obtain ⟨m, makes, assigns⟩ := holds
  obtain ⟨maker, -, made, -⟩ := Makings.exists_maker uses
  obtain rfl : m = maker := Trace.made?_inj makes (by rw [Trace.made?_eq, made]; rfl)
  rw [Script.assigned_eq, made] at assigns
  exact (List.singleton_inj.1 assigns).symm

/-- Sections that are held by one variable have one name where they are used. -/
theorem name_eq_of_holds {steps steps' : List Step} {i i' : Nat} {used used' : Making}
    (uses : Makings.used? steps i = some used) (uses' : Makings.used? steps' i' = some used')
    (held : ∃ x, Script.Holds steps used.1.length x ∧ Script.Holds steps' used'.1.length x) :
    Script.naming.name used = Script.naming.name used' := by
  obtain ⟨x, holds, holds'⟩ := held
  exact (holds.eq_name uses).symm.trans (holds'.eq_name uses')

theorem Makings.used?_of_linked {steps : List Step} {i : Nat} {event : Event Making (List Link)}
    {call : LinkedCall Making} (at_ : (Makings.events steps)[i]? = some event)
    (result : event.result = .ok (some (.linked call))) (uses : call.makes = false) :
    Makings.used? steps i = some call.target := by
  rw [Makings.used?, at_, Option.bind_some, Event.used?_eq_some]
  exact ⟨call, by rw [Event.linked?, result], uses, rfl⟩

/-- The call of a trace is the call over histories with numbers for sections. -/
theorem Trace.exists_call {steps : List Step} {i : Nat} {event : Event Nat Nat}
    {call : Option (Call Nat)} (at_ : (Trace.events steps)[i]? = some event)
    (result : event.result = .ok call) :
    ∃ event call', (Makings.events steps)[i]? = some event ∧ event.result = .ok call' ∧
      call = call'.map (Call.map fun made => made.1.length) := by
  rw [Trace.events_eq, List.getElem?_map, Option.map_eq_some_iff] at at_
  obtain ⟨event, at_, rfl⟩ := at_
  cases made : event.result with
  | error fault => simp [Event.map, made, Except.map] at result
  | ok call' =>
    simp only [Event.map, made, Except.map, Except.ok.injEq, Trace.name_eq] at result
    exact ⟨event, call', at_, made, result.symm⟩

/-- Steps that make calls with equal arguments have equal statements, where sections are compared
by the variables that hold them. -/
theorem Script.callText_of_same {steps steps' : List Step} {i i' : Nat}
    {event event' : Event Nat Nat} {call call' : Option (Call Nat)}
    (at_ : (Trace.events steps)[i]? = some event)
    (at_' : (Trace.events steps')[i']? = some event') (result : event.result = .ok call)
    (result' : event'.result = .ok call')
    (same : Option.Rel
      (Call.Same fun k k' => ∃ x, Script.Holds steps k x ∧ Script.Holds steps' k' x) call call') :
    Script.callText steps i = Script.callText steps' i' := by
  obtain ⟨source, call, at_, asked, rfl⟩ := Trace.exists_call at_ result
  obtain ⟨source', call', at_', asked', rfl⟩ := Trace.exists_call at_' result'
  rw [callText_eq at_ asked, callText_eq at_' asked']
  rcases call with _ | (plain | linked) <;> rcases call' with _ | (plain' | linked') <;>
    rcases same with ⟨same | same⟩ | _
  · rfl
  · exact plainLines_of_same same
  · refine congrArg ([·]) (bareLine_of_same same.of_map fun uses uses' held => ?_)
    exact name_eq_of_holds (Makings.used?_of_linked at_ asked uses)
      (Makings.used?_of_linked at_' asked' uses') held

/-- A wait has the ticks that the trace waits for, in seconds or in ticks. -/
theorem Script.callText_of_idle {steps : List Step} {i : Nat} {keyframe : Bool} {ticks : Int32}
    (at_ : steps[i]? = some ⟨keyframe, .idle (some ticks)⟩) :
    ∃ event n, (Trace.events steps)[i]? = some event ∧
      event.result = .ok (some (.plain (.idle n))) ∧ (n : Int) = max ticks.toInt 0 ∧
      ((∃ k, 20 * k = n ∧ callText steps i = [statement "scene.idleSeconds" [toString k]]) ∨
        callText steps i = [statement "scene.idle" [toString n]]) := by
  have traced := Stage.getElem?_run Trace.naming (.start Trace.naming) steps i
  have asked := Makings.getElem?_events steps i
  rw [at_] at traced asked
  refine ⟨_, ticks.toInt.toNat, traced, rfl, Int.ofNat_toNat _, ?_⟩
  rw [callText_eq asked rfl]
  by_cases whole : 0 < ticks.toInt.toNat ∧ ticks.toInt.toNat % ticksPerSecond = 0
  · exact .inl ⟨_, Nat.mul_div_cancel' (Nat.dvd_of_mod_eq_zero whole.2),
      congrArg ([·]) (if_pos whole)⟩
  · exact .inr (congrArg ([·]) (if_neg whole))

/-- Take two steps, each at some place of some segment, for which the trace makes calls with equal
arguments: a section of the one equals a section of the other when one variable holds both. Then the
script has the same statements for them, apart from the assignments in front. A wait of any number
of ticks, negative ones included, is written as the number of ticks that the trace waits for, or as
the seconds that make up this number. -/
theorem call_text_determined :
    (∀ (steps steps' : List Step) (i i' : Nat) (event event' : Event Nat Nat)
        (call call' : Option (Call Nat)),
      (Trace.events steps)[i]? = some event → (Trace.events steps')[i']? = some event' →
      event.result = .ok call → event'.result = .ok call' →
      Option.Rel (Call.Same fun k k' => ∃ x, Script.Holds steps k x ∧ Script.Holds steps' k' x)
        call call' →
      Script.callText steps i = Script.callText steps' i') ∧
    ∀ (steps : List Step) (i : Nat) (keyframe : Bool) (ticks : Int32),
      steps[i]? = some ⟨keyframe, .idle (some ticks)⟩ →
      ∃ event n, (Trace.events steps)[i]? = some event ∧
        event.result = .ok (some (.plain (.idle n))) ∧ (n : Int) = max ticks.toInt 0 ∧
        ((∃ k, 20 * k = n ∧
            Script.callText steps i = [Script.statement "scene.idleSeconds" [toString k]]) ∨
          Script.callText steps i = [Script.statement "scene.idle" [toString n]]) :=
  ⟨fun _ _ _ _ _ _ _ _ => Script.callText_of_same, fun _ _ _ _ => Script.callText_of_idle⟩

/-- Shows a block as a section, then hides the section. -/
def lidHidden : List Step :=
  [⟨false, .showIndependentSection ⟨some noMotion, none⟩ (some (.known .down)) (some "lid")⟩,
   ⟨false, .hideIndependentSection (some "lid") none⟩]

/-- The same after another section, with more of the fields given. -/
def lidHiddenLater : List Step :=
  [⟨true, .showIndependentSection ⟨some noMotion, none⟩ (some (.known .down)) none⟩,
   ⟨false, .mergeSection ⟨some noMotion, some noMotion⟩ (some (.known .down)) (some "lid")⟩,
   ⟨true, .hideIndependentSection (some "lid") (some (.known .up))⟩]

theorem call_text_determined_lidHidden :
    Script.callText lidHidden 1 = Script.callText lidHiddenLater 2 ∧
      Script.callText lidHidden 1 =
        ["scene.world.hideIndependentSection(sec_lid, Direction.UP);"] := by
  refine ⟨?_, by decide⟩
  have held : ∃ x, Script.Holds lidHidden 0 x ∧ Script.Holds lidHiddenLater 1 x :=
    ⟨"sec_lid", ⟨0, rfl, (Script.assigned_eq lidHidden 0).trans rfl⟩,
      ⟨1, rfl, (Script.assigned_eq lidHiddenLater 1).trans rfl⟩⟩
  exact call_text_determined.1 lidHidden lidHiddenLater 1 2 _ _ _ _ rfl rfl rfl rfl
    (.some (.linked (.hide .up held)))

end Storyboard
