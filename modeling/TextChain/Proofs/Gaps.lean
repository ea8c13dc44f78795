import TextChain.Proofs.Runs
import TextChain.Proofs.TextResults

/-!
Gaps in the hits of a pattern. A text that is split at the hits of a pattern falls into the texts between
them and what the groups captured, and a group that took no part in a hit leaves a gap. To take the part
that is such a gap is the only way in which a step of the catalogue answers a text with something else
than a text; a chain that takes no gap ends in a text or in a failure.
-/

namespace TextChain

/-! ## Parts of a text -/

def partValue (script : Script) : Option (List Char) → Value
  | some part => script.value part
  | none => .nothing

theorem items_text {subject : Name} {items : List Value}
    (fell : subject.toValue.items = .ok items) : ∀ item ∈ items, item.isText = true := by
  cases subject <;> cases fell <;> simp [ofChars_isText]

theorem splitAtMark_text (subject : Name) (text mark : List Char) :
    ∀ part ∈ subject.toValue.splitAtMark ⟨.text, text⟩ mark, part.isText = true := by
  have texts : ∀ part ∈ (split mark text).map Script.text.value, part.isText = true := by
    simp [Script.value, ofChars_isText]
  cases subject with
  | text s => exact texts
  | preset p =>
      simp only [Name.toValue, Value.splitAtMark]
      split
      · simp [Value.isText, Value.chars?]
      · exact texts

theorem splitAtHits_iff {value : Value} {p : Pattern} {parts : List Value} :
    value.splitAtHits p = .ok parts ↔
      ∃ text, value.subjectOf p = .ok text ∧ parts = (p.split text).map (partValue p.script) := by
  have parted : value.splitAtHits p =
      value.subjectOf p >>= fun text => .ok ((p.split text).map (partValue p.script)) := by
    refine congrArg (value.subjectOf p >>= ·) (funext fun text => congrArg Except.ok ?_)
    exact List.map_congr_left fun part _ => by cases part <;> rfl
  rw [parted, bind_eq_ok]
  simp only [Except.ok.injEq, eq_comm]

/-- A text falls into texts, unless it is split at the hits of a pattern. -/
theorem splitBy_text {subject : Name} {separator : Value} {parts : List Value}
    (fell : subject.toValue.splitBy separator = .ok parts) :
    (∀ part ∈ parts, part.isText = true) ∨
      ∃ p text, separator = .pattern p ∧ subject.toValue.subjectOf p = .ok text ∧
        parts = (p.split text).map (partValue .text) := by
  have atMark (fell : (subject.toValue.method "split" >>= fun writing =>
      Value.separatorOf writing.script separator >>= fun mark =>
        .ok (subject.toValue.splitAtMark writing mark)) = .ok parts) :
      ∀ part ∈ parts, part.isText = true := by
    rw [Name.toValue_method, ok_bind] at fell
    obtain ⟨mark, _, fell⟩ := bind_eq_ok.mp fell
    cases fell
    exact splitAtMark_text subject _ mark
  unfold Value.splitBy at fell
  split at fell
  · exact Or.inl (items_text fell)
  · exact Or.inl (items_text fell)
  · next p =>
      obtain ⟨text, applies, parted⟩ := splitAtHits_iff.mp fell
      rw [subject_script applies] at parted
      exact Or.inr ⟨p, text, rfl, applies, parted⟩
  · -- A pattern in the place of the text would split the separator instead, but it is no text.
    next written => cases subject <;> cases written
  · exact Or.inl (atMark fell)

/-! ## Taking a gap -/

/-- The step takes the part of a value that is a gap: a group of the separator that took no part in a
hit. -/
def Operation.TakesGap (step : Operation) (value : Value) : Prop :=
  step.form = Edit.takeThatAt ∧ ∃ p text place index,
    step.settings.get? "separator" = some (.pattern p) ∧ step.settings.get? "index" = some place ∧
    place.int? = some index ∧ 0 ≤ index ∧ value.subjectOf p = .ok text ∧
    (p.split text)[index.toNat]? = some none

section Places
variable {place : Value} {index : Int}

theorem less_whole (whole : place.int? = some index) (bound : Int) :
    Value.less "<" place (.int bound) = .ok (decide (index < bound)) := by
  cases place <;> cases whole <;> rfl

theorem numberLe?_whole {other : Value} {bound : Int} (whole : place.int? = some index)
    (bounded : other.int? = some bound) : Value.numberLe? place other = some (decide (index ≤ bound)) := by
  have below_or_same (m n : Int) : (decide (m < n) || n == m) = decide (m ≤ n) := by
    rw [Bool.eq_iff_iff]
    simp only [Bool.or_eq_true, decide_eq_true_eq, beq_iff_eq]
    omega
  cases place <;> cases whole <;> cases other <;> cases bounded <;>
    simp [Value.numberLe?, Value.numberLess?, Value.same, Value.int?, Value.sameFloat, below_or_same]

theorem atLeast_whole (whole : place.int? = some index) (bound : Int) :
    place.atLeast (.int bound) = .ok (decide (bound ≤ index)) := by
  rw [Value.atLeast, numberLe?_whole rfl whole]

theorem atMost_whole (m n : Int) : (Value.int m).atMost (.int n) = .ok (decide (m ≤ n)) := by
  rw [Value.atMost, numberLe?_whole rfl rfl]

theorem wholePlace_iff {fault : OperandFault} :
    Value.wholePlace fault place = .ok index ↔ place.int? = some index := by
  unfold Value.wholePlace
  cases place.int? <;> simp [refuse]

theorem pick_iff {α : Type} {fault : OperandFault} {items : List α} {item : α}
    (forward : 0 ≤ index) :
    Value.pick fault items index = .ok item ↔ items[index.toNat]? = some item := by
  unfold Value.pick
  rw [if_neg (by omega)]
  cases items[index.toNat]? <;> simp [refuse]

end Places

/-- A step takes the part at a place that is a whole number and not below the first, if there is one. -/
theorem partAt_iff {name : Name} {settings : Settings} {value answer : Value} :
    Edit.partAt name settings value = .ok answer ↔
      ∃ parts place index, value.splitBy (settings.either "separator" .nothing) = .ok parts ∧
        settings.get? "index" = some place ∧ place.int? = some index ∧ 0 ≤ index ∧
        parts[index.toNat]? = some answer := by
  constructor
  · intro taken
    obtain ⟨parts, fell, taken⟩ := bind_eq_ok.mp taken
    obtain ⟨place, given, taken⟩ := bind_eq_ok.mp taken
    obtain ⟨below, compared, taken⟩ := bind_eq_ok.mp taken
    have found : settings.get? "index" = some place := by
      unfold Settings.need at given
      cases got : settings.get? "index" <;> simp [got] at given
      rw [given]
    -- Both comparisons have to fail, and what is compared is a whole number, or no part is taken.
    cases below with
    | true => simp at taken
    | false =>
        obtain ⟨beyond, _, taken⟩ := bind_eq_ok.mp taken
        cases beyond with
        | true => simp at taken
        | false =>
            obtain ⟨index, whole, picked⟩ := bind_eq_ok.mp taken
            have whole := wholePlace_iff.mp whole
            have forward : 0 ≤ index := by simpa [less_whole whole] using compared
            exact ⟨parts, place, index, fell, found, whole, forward, (pick_iff forward).mp picked⟩
  · rintro ⟨parts, place, index, fell, found, whole, forward, hit⟩
    obtain ⟨inside, _⟩ := List.getElem?_eq_some_iff.mp hit
    have notBelow : decide (index < 0) = false := by simpa using forward
    have notBeyond : decide ((parts.length : Int) ≤ index) = false := by
      rw [decide_eq_false_iff_not]
      omega
    simp only [Edit.partAt, fell, ok_bind, Settings.need, found, less_whole whole,
      atLeast_whole whole, notBelow, notBeyond, Bool.false_eq_true, ↓reduceIte, Value.itemAt,
      wholePlace_iff.mpr whole, (pick_iff forward).mpr hit]

/-! ## Steps of the catalogue -/

/-- A step of a form that changes a text, whatever chance makes of it, with no bytes among its settings. -/
structure Operation.Edits (step : Operation) : Prop where
  listed : ∃ (chance : Edit.Chance) (name : String), (name, step.form) ∈ chance.catalogue.transformations
  noBytes : step.form.schema.NoBytes step.settings

section Steps
variable {step : Operation}

theorem prepared_edits {chance : Edit.Chance} {name : Name} {settings : Settings}
    {stepName : Option Name}
    (accepted : chance.catalogue.get name.toValue (.text Kind.transformation.label) settings stepName =
      .ok step)
    (documented : ∀ parameter ∈ step.form.schema.parameters, ∀ value,
      settings.get? parameter.name = some value →
        parameter.admits value = true ∨ value = .nothing ∨ ∃ p, value = .pattern p) : step.Edits := by
  obtain ⟨bound, _, same⟩ := get_bound accepted
  have listed : (name.label, step.form) ∈ chance.catalogue.transformations :=
    Catalogue.bound?_mem bound
  refine ⟨⟨chance, name.label, listed⟩, fun parameter named value given => ?_⟩
  rw [same] at given
  rcases documented parameter named value given with admitted | rfl | ⟨p, rfl⟩
  · exact Edit.documented_noBytes listed named admitted
  · rintro content ⟨⟩
  · rintro content ⟨⟩

theorem transformation_execute (family : step.form.family = .transformation) (value : Value) :
    step.execute value = step.form.work step.name step.settings value := by
  simp only [Operation.execute, family]
  cases step.form.work step.name step.settings value <;> rfl

theorem edits_family (edits : step.Edits) : step.form.family = .transformation := by
  obtain ⟨chance, name, listed⟩ := edits.listed
  exact Edit.edit_family listed

theorem gap_taken {value : Value} (gap : step.TakesGap value) : step.execute value = .ok .nothing := by
  obtain ⟨form, p, text, place, index, separator, found, whole, forward, applies, hit⟩ := gap
  have parted : value.splitBy (.pattern p) = .ok ((p.split text).map (partValue p.script)) :=
    splitAtHits_iff.mpr ⟨text, applies, rfl⟩
  rw [transformation_execute (by rw [form]; rfl), form]
  refine partAt_iff.mpr
    ⟨(p.split text).map (partValue p.script), place, index, ?_, found, whole, forward, ?_⟩
  · rw [Settings.either, separator]
    exact parted
  · rw [List.getElem?_map, hit]
    rfl

/-- A step that takes a part of a text takes a text, unless it takes a gap. -/
theorem part_taken {subject : Name} {answer : Value} (form : step.form = Edit.takeThatAt)
    (taken : step.execute subject.toValue = .ok answer) :
    answer.isText = true ∨ step.TakesGap subject.toValue := by
  rw [transformation_execute (by rw [form]; rfl), form] at taken
  obtain ⟨parts, place, index, fell, found, whole, forward, hit⟩ := partAt_iff.mp taken
  rcases splitBy_text fell with texts | ⟨p, text, pattern, applies, rfl⟩
  · exact Or.inl (texts answer (List.mem_of_getElem? hit))
  · have separator : step.settings.get? "separator" = some (.pattern p) := by
      unfold Settings.either at pattern
      cases given : step.settings.get? "separator" with
      | none => simp [given] at pattern
      | some value => simpa [given] using pattern
    rw [List.getElem?_map] at hit
    obtain ⟨part, there, rfl⟩ := Option.map_eq_some_iff.mp hit
    cases part with
    | some part => exact Or.inl (ofChars_isText part)
    | none =>
        exact Or.inr ⟨form, p, text, place, index, separator, found, whole, forward, applies, there⟩

theorem edits_answer {subject answer : Value} (edits : step.Edits) (text : subject.isText = true)
    (answered : step.execute subject = .ok answer) :
    answer.isText = true ↔ ¬ step.TakesGap subject := by
  obtain ⟨subject, rfl⟩ := (isText_iff subject).mp text
  constructor
  · intro answerText gap
    rw [gap_taken gap] at answered
    cases answered
    simp [Value.isText, Value.chars?] at answerText
  · intro gapless
    obtain ⟨chance, name, listed⟩ := edits.listed
    rcases Edit.edits_keep_texts listed with form | keeps
    · exact (part_taken form answered).resolve_right gapless
    · rw [transformation_execute (edits_family edits)] at answered
      exact keeps step.name subject step.settings edits.noBytes answer answered

end Steps

/-! ## Runs -/

/-- A run comes to a step and gives it a value of which it takes a gap. -/
def ReachesGap : List Operation → Value → Prop
  | [], _ => False
  | step :: rest, value =>
      step.TakesGap value ∨ ∃ answer, step.execute value = .ok answer ∧ ReachesGap rest answer

section Runs
variable {steps : List Operation} {subject : Value}

/-- Transformations that take no gap end in a text, or fail at a text. -/
theorem gapless_run (edits : ∀ step ∈ steps, step.Edits) (text : subject.isText = true)
    (gapless : ¬ ReachesGap steps subject) :
    (∃ answer, (transformWith steps subject).verdict = .passed answer ∧ answer.isText = true) ∨
      ∃ name soFar failure, (transformWith steps subject).verdict = .errored name soFar failure ∧
        soFar.isText = true := by
  -- What is handed on stays a text, for the step at hand takes no gap.
  induction steps generalizing subject with
  | nil => exact Or.inl ⟨subject, rfl, text⟩
  | cons step rest ih =>
      cases outcome : step.execute subject with
      | error failure =>
          refine Or.inr ⟨step.name, subject, failure.logged, ?_, text⟩
          rw [transformWith, outcome]
          exact congrArg Report.verdict broken_eq
      | ok answer =>
          have goesOn : (transformWith (step :: rest) subject).verdict =
              (transformWith rest answer).verdict := by
            rw [transformWith, outcome]
            rfl
          have answerText : answer.isText = true :=
            (edits_answer (edits step List.mem_cons_self) text outcome).mpr fun gap =>
              gapless (Or.inl gap)
          rw [goesOn]
          exact ih (fun next member => edits next (List.mem_cons_of_mem step member)) answerText
            fun later => gapless (Or.inr ⟨answer, outcome, later⟩)

theorem gap_ends_run {step : Operation} {soFar : Value}
    (passed : (transformWith steps subject).verdict = .passed soFar) (gap : step.TakesGap soFar) :
    (transformWith (steps ++ [step]) subject).verdict = .passed .nothing := by
  rw [transform_append]
  generalize transformWith steps subject = report at passed
  obtain ⟨verdict, log, remarks⟩ := report
  cases passed
  rw [andThen_passed, transformWith, gap_taken gap]
  rfl

end Runs

/-! ## Chains -/

section Chains
variable {chain : Chain Operation}

theorem attempt_passed {answer : Value} (kind : chain.kind = .transformation)
    (passed : (transformWith chain.steps chain.subject).verdict = .passed answer)
    (handler : Option Handler) : chain.attempt handler = { answer := .ok answer } := by
  simp only [Chain.attempt, Chain.run, evaluate, runSteps, kind, passed]
  rfl

theorem bridge_passed {answer : Value} (kind : chain.kind = .transformation)
    (passed : (transformWith chain.steps chain.subject).verdict = .passed answer) :
    chain.bridge = Chain.start .assertion answer := by
  have crossed : chain.crossed (lastName chain.steps) (.passed answer) = .ok answer := by
    simp only [Chain.crossed, kind, Verdict.answer]
  simp only [Chain.bridge, Chain.run, evaluate, runSteps, kind, passed, crossed, ok_bind, Kind.other]

/-- A chain that takes no gap answers with a text, unless a handler was called, and to leave it fails only
as a bridge does. -/
theorem gapless_chain (kind : chain.kind = .transformation) (text : chain.subject.isText = true)
    (edits : ∀ step ∈ chain.steps, step.Edits) (gapless : ¬ ReachesGap chain.steps chain.subject) :
    (∀ handler answer, (chain.attempt handler).answer = .ok answer →
      (chain.attempt handler).handed = [] → answer.isText = true) ∧
    ∀ failure, chain.bridge = .error failure →
      ∃ reason operation soFar source, failure = .bridge reason operation soFar source := by
  rcases gapless_run edits text gapless with
    ⟨result, passed, resultText⟩ | ⟨name, soFar, raised, errored, soFarText⟩
  · constructor
    · intro handler answer answered _
      rw [attempt_passed kind passed handler] at answered
      cases answered
      exact resultText
    · intro failure failed
      rw [bridge_passed kind passed, Chain.start, if_pos resultText] at failed
      cases failed
  · constructor
    · intro handler answer answered unheard
      simp only [Chain.attempt, Chain.run, evaluate, runSteps, kind, errored, Verdict.deliver]
        at answered unheard
      -- Without a handler the failure is raised, and with one the handler was called.
      cases handler with
      | none => cases answered
      | some handle => cases unheard
    · intro failure failed
      have errs : (runSteps .transformation chain.steps chain.subject).verdict =
          .errored name soFar raised := errored
      have written := errored_writable errs
      have told : soFar.writable = .ok () := by
        obtain ⟨word, rfl⟩ := (isText_iff soFar).mp soFarText
        exact Name.toValue_writable word
      simp only [Chain.bridge, Chain.run, evaluate, runSteps, kind, errored, Chain.crossed, Chain.barred,
        written, told, ok_bind, error_bind, Except.error.injEq] at failed
      exact ⟨_, _, _, _, failed.symm⟩

end Chains

/-- Each step of such a chain answers a text with a text but when it takes a gap, and then it answers with
nothing. A chain that takes no gap answers with a text unless its handler was called, and fails to be left
only by the failures of bridges. A chain whose last step takes a gap answers with nothing although no
handler was called, and to leave it fails in another way. -/
theorem only_gaps_leave_the_texts (chain : Chain Operation) (kind : chain.kind = .transformation)
    (text : chain.subject.isText = true) (edits : ∀ step ∈ chain.steps, step.Edits) :
    (∀ step ∈ chain.steps, ∀ value, value.isText = true →
      (step.TakesGap value → step.execute value = .ok .nothing) ∧
      ∀ answer, step.execute value = .ok answer → (answer.isText = true ↔ ¬ step.TakesGap value)) ∧
    (¬ ReachesGap chain.steps chain.subject →
      (∀ handler answer, (chain.attempt handler).answer = .ok answer →
        (chain.attempt handler).handed = [] → answer.isText = true) ∧
      ∀ failure, chain.bridge = .error failure →
        ∃ reason operation soFar source, failure = .bridge reason operation soFar source) ∧
    ∀ before step soFar, chain.steps = before ++ [step] →
      (transformWith before chain.subject).verdict = .passed soFar → step.TakesGap soFar →
      (∀ handler, chain.attempt handler = { answer := .ok .nothing }) ∧
      chain.bridge = .error (.subjectType "NoneType") := by
  refine ⟨?steps, gapless_chain kind text edits, ?gaps⟩
  case steps =>
    intro step member value text
    exact ⟨gap_taken, fun answer => edits_answer (edits step member) text⟩
  case gaps =>
    intro before step soFar ends passed gap
    have finished : (transformWith chain.steps chain.subject).verdict = .passed .nothing := by
      rw [ends]
      exact gap_ends_run passed gap
    exact ⟨attempt_passed kind finished, bridge_passed kind finished⟩

/-- A pattern with a group that has no part in hits of the comma. -/
def commaOrGroup : Pattern :=
  { source := "(x)|,".toList
    flags := {}
    node := .choice (.group 1 (.letter 120)) (.letter 44)
    groups := 1
    names := [] }

example : Pattern.read false {} "(x)|,".toList = .ok commaOrGroup := rfl

/-- The step that takes one of the parts between which the pattern is hit. -/
def partOf (index : Int) : Operation :=
  { form := Edit.takeThatAt
    name := .text "take_that_at"
    settings := [("separator", .pattern commaOrGroup), ("index", .int index)] }

theorem partOf_edits (index : Int) : (partOf index).Edits := by
  have accepted : Edit.Chance.standing.catalogue.get (Name.text "take_that_at").toValue
      (.text Kind.transformation.label) (partOf index).settings none = .ok (partOf index) := rfl
  refine prepared_edits accepted ?_
  have named : ∀ parameter ∈ [integerParameter "index" "Index of the part to keep" 1,
      separatorParameter], ∀ value, (partOf index).settings.get? parameter.name = some value →
        parameter.admits value = true ∨ value = .nothing ∨ ∃ p, value = .pattern p := by
    simp only [List.forall_mem_cons, List.not_mem_nil, false_implies, implies_true, and_true]
    constructor
    · rintro value ⟨⟩
      exact Or.inl rfl
    · rintro value ⟨⟩
      exact Or.inr (Or.inr ⟨commaOrGroup, rfl⟩)
  exact named

/-- A text falls into a letter, a gap and another letter. To take the letter makes a text of it, and to
take the gap makes nothing of it. -/
theorem letter_and_gap :
    (((partOf 0).Edits ∧ ¬ ReachesGap [partOf 0] (.text "a,b")) ∧
      ∀ handler answer,
        (Chain.attempt ⟨.transformation, .text "a,b", [partOf 0], false⟩ handler).answer = .ok answer →
        (Chain.attempt ⟨.transformation, .text "a,b", [partOf 0], false⟩ handler).handed = [] →
        answer.isText = true) ∧
    ((partOf 1).Edits ∧ (partOf 1).TakesGap (.text "a,b")) ∧
      (∀ handler, Chain.attempt ⟨.transformation, .text "a,b", [partOf 1], false⟩ handler =
        { answer := .ok .nothing }) ∧
      Chain.bridge ⟨.transformation, .text "a,b", [partOf 1], false⟩ =
        .error (.subjectType "NoneType") := by
  have edits (index : Int) : ∀ step ∈ [partOf index], step.Edits :=
    List.forall_mem_singleton.mpr (partOf_edits index)
  obtain ⟨each, texts, _⟩ := only_gaps_leave_the_texts
    ⟨.transformation, .text "a,b", [partOf 0], false⟩ rfl rfl (edits 0)
  have letter := (each (partOf 0) List.mem_cons_self (.text "a,b") rfl).2 (.text "a") rfl
  have gapless : ¬ ReachesGap [partOf 0] (.text "a,b") := by
    rintro (taken | ⟨answer, _, later⟩)
    · exact letter.mp rfl taken
    · exact later
  have gap : (partOf 1).TakesGap (.text "a,b") :=
    ⟨rfl, commaOrGroup, "a,b".toList, .int 1, 1, rfl, rfl, rfl, by decide, rfl, rfl⟩
  have nothings := (only_gaps_leave_the_texts
    ⟨.transformation, .text "a,b", [partOf 1], false⟩ rfl rfl (edits 1)).2.2 [] (partOf 1)
    (.text "a,b") rfl rfl gap
  exact ⟨⟨⟨partOf_edits 0, gapless⟩, (texts gapless).1⟩, ⟨partOf_edits 1, gap⟩, nothings⟩

end TextChain
