import TextChain.Proofs.Changes
import TextChain.Proofs.Standards

/-!
Two ways to record a step. A method records a step of the form that it is named after, with what the call
gives and the standard values of what it leaves out; `apply` takes the name of the form and what is given.
The steps have the same name, and nothing that they answer or fail with tells them apart.
-/

namespace TextChain

/-! ## What a call gives -/

def Argument.bare (argument : Argument) : Argument := { name := argument.name }

/-- The settings that a call gives itself, with no standard values. -/
def Signature.given (signature : Signature) (call : Call) : Settings :=
  match signature with
  | .fixed arguments => bindArguments (arguments.map Argument.bare) call.positional call.named
  | .gathered name => [(name, .list call.positional)]

def Argument.standardFor? (name : String) (argument : Argument) : Option Value :=
  if argument.name == name then argument.standard else none

def Signature.standard? (signature : Signature) (name : String) : Option Value :=
  match signature with
  | .fixed arguments => arguments.findSome? (Argument.standardFor? name)
  | .gathered _ => none

section Binding
variable {arguments : List Argument} {positional : List Value} {named : Settings} {name : String}

theorem bind_stranger (apart : ∀ argument ∈ arguments, argument.name ≠ name) :
    (bindArguments arguments positional named).get? name = none := by
  induction arguments generalizing positional with
  | nil => rfl
  | cons argument rest ih =>
      have other : (argument.name == name) = false :=
        beq_eq_false_iff_ne.mpr (apart argument List.mem_cons_self)
      have later (positional : List Value) : (bindArguments rest positional named).get? name = none :=
        ih fun next listed => apart next (List.mem_cons_of_mem argument listed)
      cases positional with
      | cons value positional => simp [bindArguments, get?_cons, other, later]
      | nil =>
          rw [bindArguments]
          split <;> simp [get?_cons, other, later]

theorem bind_ungiven (ungiven : named.get? name = none) :
    (bindArguments (arguments.map Argument.bare) [] named).get? name = none := by
  induction arguments with
  | nil => rfl
  | cons argument rest ih =>
      rw [List.map_cons, bindArguments]
      cases given : named.get? argument.name with
      | none => simpa [Argument.bare, given] using ih
      | some value =>
          have other : argument.name ≠ name := by
            rintro rfl
            rw [given] at ungiven
            cases ungiven
          simpa [Argument.bare, given, get?_cons, other] using ih

/-- Standard values come in where nothing was given, and nowhere else. -/
theorem bind_completes :
    (bindArguments arguments positional named).get? name =
      ((bindArguments (arguments.map Argument.bare) positional named).get? name).or
        (arguments.findSome? (Argument.standardFor? name)) := by
  induction arguments generalizing positional with
  | nil => rfl
  | cons argument rest ih =>
      by_cases same : argument.name = name
      · subst same
        cases positional with
        | cons value positional => simp [bindArguments, Argument.bare, get?_cons]
        | nil =>
            cases given : named.get? argument.name with
            | some value => simp [bindArguments, Argument.bare, given, get?_cons]
            | none =>
                -- Whatever else has this name was not given either, so a standard value stands alone.
                have ungiven : (bindArguments (rest.map Argument.bare) [] named).get? argument.name =
                    none := bind_ungiven given
                cases standing : argument.standard with
                | some standard =>
                    simp [bindArguments, Argument.bare, given, standing, get?_cons, ungiven,
                      Argument.standardFor?]
                | none =>
                    simpa [bindArguments, Argument.bare, given, standing, Argument.standardFor?]
                      using ih
      · have skipped : (argument :: rest).findSome? (Argument.standardFor? name) =
            rest.findSome? (Argument.standardFor? name) := by
          simp [Argument.standardFor?, same]
        rw [skipped]
        cases positional with
        | cons value positional => simpa [bindArguments, Argument.bare, get?_cons, same] using ih
        | nil =>
            cases given : named.get? argument.name <;> cases standing : argument.standard <;>
              simpa [bindArguments, Argument.bare, given, standing, get?_cons, same] using ih

end Binding

namespace Signature
variable (signature : Signature) (call : Call)

theorem completes : Completes signature.standard? (signature.settings call) (signature.given call) := by
  intro name
  cases signature with
  | fixed arguments => exact bind_completes
  | gathered gathered => exact (Option.or_none).symm

end Signature

def Signature.names : Signature → List String
  | .fixed arguments => arguments.map (·.name)
  | .gathered name => [name]

theorem standard_stranger {signature : Signature} {name : String} (apart : name ∉ signature.names) :
    signature.standard? name = none := by
  cases signature with
  | gathered gathered => rfl
  | fixed arguments =>
      refine List.findSome?_eq_none_iff.mpr fun argument listed => ?_
      have other : argument.name ≠ name := by
        rintro rfl
        exact apart (List.mem_map_of_mem listed)
      simp [Argument.standardFor?, other]

theorem given_stranger {signature : Signature} {name : String} (apart : name ∉ signature.names)
    (call : Call) : (signature.given call).get? name = none := by
  cases signature with
  | gathered gathered =>
      have other : gathered ≠ name := fun same => apart (List.mem_singleton.mpr same.symm)
      simp [Signature.given, other, Settings.get?]
  | fixed arguments =>
      refine bind_stranger fun argument listed => ?_
      obtain ⟨source, member, rfl⟩ := List.mem_map.mp listed
      rintro rfl
      exact apart (List.mem_map.mpr ⟨source, member, rfl⟩)

theorem completes_append {first second : Signature}
    (apart : ∀ name ∈ first.names, name ∉ second.names) (call last : Call) :
    Completes (fun name => (first.standard? name).or (second.standard? name))
      (first.settings call ++ second.settings last) (first.given call ++ second.given last) := by
  intro name
  rw [get?_append, get?_append, first.completes call name, second.completes last name]
  by_cases bound : name ∈ first.names
  · simp only [given_stranger (apart name bound) last, Option.none_or, Option.or_none,
      Option.or_assoc]
  · simp only [standard_stranger bound, Option.none_or, Option.or_none, Option.or_assoc]

/-! ## Methods and the forms they are named after -/

def Edit.Chance.Serves (chance : Edit.Chance) (kind : Kind) (label : String)
    (standard? : String → Option Value) : Prop :=
  ∃ form, chance.catalogue.bound? kind (.text label) = some form ∧ form.Bears standard?

namespace Fluent
variable (chance : Edit.Chance)

theorem transformations_serve : ∀ method ∈ transformations,
    chance.Serves .transformation method.name method.signature.standard? := by
  simp only [transformations, List.forall_mem_cons, List.not_mem_nil, false_implies, implies_true,
    and_true]
  -- One form for each method, in the order in which the methods are listed.
  exact ⟨⟨Edit.upperCase, rfl, scriptEdit_bears⟩, ⟨Edit.lowerCase, rfl, scriptEdit_bears⟩,
    ⟨Edit.pascalCase, rfl, plainEdit_bears⟩, ⟨Edit.snakeCase, rfl, plainEdit_bears⟩,
    ⟨Edit.camelCase, rfl, plainEdit_bears⟩, ⟨Edit.trimmed, rfl, scriptEdit_bears⟩,
    ⟨Edit.hex, rfl, plainEdit_bears⟩, ⟨Edit.binary, rfl, plainEdit_bears⟩,
    ⟨Edit.urlSafe, rfl, Edit.urlSafe_bears⟩, ⟨Edit.hash, rfl, plainEdit_bears⟩,
    ⟨Edit.characterAt, rfl, Edit.characterAt_bears rfl⟩,
    ⟨Edit.randomCharacter chance, rfl, Edit.randomCharacter_bears chance⟩,
    ⟨Edit.randomized chance, rfl, Edit.randomized_bears chance⟩,
    ⟨Edit.anagram, rfl, Edit.anagram_bears rfl⟩,
    ⟨Edit.sanitized, rfl, Edit.sanitized_bears rfl rfl rfl⟩,
    ⟨Edit.replaced, rfl, Edit.replaced_bears rfl rfl⟩,
    ⟨Edit.replacedAll, rfl, Edit.replacedAll_bears rfl rfl⟩,
    ⟨Edit.removedFirst, rfl, Edit.removedFirst_bears rfl⟩,
    ⟨Edit.removedAll, rfl, Edit.removedAll_bears rfl⟩, ⟨Edit.add, rfl, Edit.add_bears rfl rfl⟩,
    ⟨Edit.padded, rfl, Edit.padded_bears rfl rfl rfl⟩,
    ⟨Edit.chunked, rfl, Edit.chunked_bears rfl rfl⟩,
    ⟨Edit.brokenToLines, rfl, Edit.brokenToLines_bears rfl⟩,
    ⟨Edit.extracted, rfl, Edit.extracted_bears rfl⟩,
    ⟨Edit.extractedInRange, rfl, Edit.extractedInRange_bears rfl rfl⟩,
    ⟨Edit.extractedWhenBetween, rfl, Edit.extractedWhenBetween_bears rfl rfl⟩,
    ⟨Edit.escaped, rfl, plainEdit_bears⟩, ⟨Edit.unescaped, rfl, plainEdit_bears⟩,
    ⟨Edit.custom, rfl, Edit.custom_bears rfl⟩⟩

theorem assertions_serve : ∀ method ∈ assertions,
    chance.Serves .assertion method.name method.signature.standard? := by
  simp only [assertions, List.forall_mem_cons, List.not_mem_nil, false_implies, implies_true,
    and_true]
  -- One form for each method, in the order in which the methods are listed.
  exact ⟨⟨Check.has, rfl, Check.has_bears rfl⟩, ⟨Check.doesNotHave, rfl, Check.doesNotHave_bears rfl⟩,
    ⟨Check.startsWith, rfl, Check.startsWith_bears rfl⟩,
    ⟨Check.endsWith, rfl, Check.endsWith_bears rfl⟩,
    ⟨Check.isExactly, rfl, Check.isExactly_bears rfl⟩, ⟨Check.anyOf, rfl, Check.anyOf_bears rfl⟩,
    ⟨Check.isBetween, rfl, Check.isBetween_bears rfl rfl⟩, ⟨Check.isAlpha, rfl, textCheck_bears⟩,
    ⟨Check.isAlphaNumeric, rfl, textCheck_bears⟩, ⟨Check.hasAllUppercase, rfl, textCheck_bears⟩,
    ⟨Check.hasAllLowercase, rfl, textCheck_bears⟩, ⟨Check.isUpperCase, rfl, textCheck_bears⟩,
    ⟨Check.isLowerCase, rfl, textCheck_bears⟩, ⟨Check.isDigit, rfl, textCheck_bears⟩,
    ⟨Check.isNumber, rfl, plainCheck_bears⟩, ⟨Check.isNumber, rfl, plainCheck_bears⟩,
    ⟨Check.isWhitespace, rfl, textCheck_bears⟩, ⟨Check.hasNoEmoji, rfl, textCheck_bears⟩,
    ⟨Check.hasUniqueCharacters, rfl, Check.hasUniqueCharacters_bears⟩,
    ⟨Check.isEmail, rfl, textCheck_bears⟩, ⟨Check.isUrl, rfl, textCheck_bears⟩,
    ⟨Check.isUrlSafe, rfl, textCheck_bears⟩, ⟨Check.isPhone, rfl, Check.isPhone_bears⟩,
    ⟨Check.isBase64, rfl, textCheck_bears⟩, ⟨Check.isStrongPassword, rfl, textCheck_bears⟩,
    ⟨Check.passesRegex, rfl, Check.passesRegex_bears rfl⟩,
    ⟨Check.failsRegex, rfl, Check.failsRegex_bears rfl⟩,
    ⟨Check.lengthIs, rfl, Check.lengthIs_bears rfl rfl rfl⟩,
    ⟨Check.anagram, rfl, Check.anagram_bears rfl⟩, ⟨Check.isPalindrome, rfl, textCheck_bears⟩,
    ⟨Check.custom, rfl, Check.custom_bears rfl⟩⟩

theorem methods_serve (kind : Kind) : ∀ method ∈ methods kind,
    chance.Serves kind method.name method.signature.standard? := by
  cases kind with
  | transformation => exact transformations_serve chance
  | assertion => exact assertions_serve chance

theorem closers_serve (kind : Kind) : ∀ opener ∈ openers kind, ∀ closer ∈ opener.closers,
    chance.Serves kind closer.2.name fun name =>
      (opener.method.signature.standard? name).or (closer.2.signature.standard? name) := by
  cases kind <;> simp only [openers, List.forall_mem_cons, List.not_mem_nil, false_implies,
    implies_true, and_true]
  case transformation =>
    exact ⟨⟨Edit.takeThatAt, rfl, Edit.takeThatAt_bears rfl rfl⟩,
      ⟨Edit.joined, rfl, Edit.joined_bears rfl rfl⟩⟩
  case assertion =>
    exact ⟨⟨Check.valueAt, rfl, Check.valueAt_bears rfl rfl⟩,
      ⟨Check.wordCount, rfl, Check.wordCount_bears rfl⟩⟩

/-! ### Names -/

theorem methods_named (kind : Kind) : ((methods kind).map (·.name)).Nodup ∧
    ∀ method ∈ methods kind, method.name ≠ "apply" ∧ method.name ≠ "is_not" ∧
      method.signature.standard? "index" = none := by
  cases kind <;> exact ⟨by decide, by decide⟩

theorem openers_named (kind : Kind) : ((openers kind).map (·.method.name)).Nodup ∧
    ∀ opener ∈ openers kind, (opener.closers.map (·.1)).Nodup ∧ ∀ closer ∈ opener.closers,
      (∀ name ∈ opener.method.signature.names, name ∉ closer.2.signature.names) ∧
      opener.method.signature.standard? "index" = none ∧
      closer.2.signature.standard? "index" = none := by
  cases kind <;> exact ⟨by decide, by decide⟩

/-- A call of a method that records a step, or one that opens a step with the call that closes it: the
name of the form that they are for, and what they give. -/
inductive Records (kind : Kind) : Call → Option Call → String → Settings → Prop
  | direct {method : Method} {call : Call} (listed : method ∈ methods kind)
      (called : call.method = method.name) (closing : Option Call) :
      Records kind call closing method.name (method.signature.given call)
  | closed {opener : Opener} {closer : String × Method} {call last : Call}
      (listed : opener ∈ openers kind) (called : call.method = opener.method.name)
      (closes : closer ∈ opener.closers) (finished : last.method = closer.1) :
      Records kind call (some last) closer.2.name
        (opener.method.signature.given call ++ closer.2.signature.given last)

end Fluent

section Requests
variable {kind : Kind} {call : Call} {closing : Option Call} {label : String} {given : Settings}

theorem request_direct {method : Method} (listed : method ∈ Fluent.methods kind)
    (called : call.method = method.name) (closing : Option Call) :
    call.request kind closing = .ok (.record (.text method.name) (method.signature.settings call)) := by
  obtain ⟨distinct, named⟩ := Fluent.methods_named kind
  obtain ⟨notApply, notNegation, _⟩ := named method listed
  have notBridge := (method_apart kind kind method listed).1
  simp only [Call.request, called, beq_eq_false_iff_ne.mpr notApply,
    beq_eq_false_iff_ne.mpr notBridge, beq_eq_false_iff_ne.mpr notNegation, Bool.false_and,
    Bool.false_eq_true, ↓reduceIte, recordStep, find?_distinct distinct listed]

theorem request_closed {opener : Fluent.Opener} {closer : String × Method} {last : Call}
    (listed : opener ∈ Fluent.openers kind) (called : call.method = opener.method.name)
    (closes : closer ∈ opener.closers) (finished : last.method = closer.1) :
    call.request kind (some last) = .ok (.record (.text closer.2.name)
      (opener.method.signature.settings call ++ closer.2.signature.settings last)) := by
  obtain ⟨distinct, named⟩ := Fluent.openers_named kind
  have opens : call.opened? kind = some ⟨opener, call⟩ := by
    rw [Call.opened?, called, find?_distinct distinct listed]
    rfl
  rw [request_opened (some last) opens]
  simp only [closeStep, finished, find?_distinct (named opener listed).1 closes]

theorem records_request (chance : Edit.Chance) (records : Fluent.Records kind call closing label given) :
    ∃ settings standard?, call.request kind closing = .ok (.record (.text label) settings) ∧
      Completes standard? settings given ∧ standard? "index" = none ∧
      chance.Serves kind label standard? := by
  cases records with
  | direct listed called =>
      exact ⟨_, _, request_direct listed called closing, Signature.completes _ call,
        ((Fluent.methods_named kind).2 _ listed).2.2, Fluent.methods_serve chance kind _ listed⟩
  | closed listed called closes finished =>
      obtain ⟨apart, first, second⟩ := ((Fluent.openers_named kind).2 _ listed).2 _ closes
      refine ⟨_, _, request_closed listed called closes finished, completes_append apart call _, ?_,
        Fluent.closers_serve chance kind _ listed _ closes⟩
      simp only [first, second, Option.or_none]

end Requests

/-! ## The recorded steps -/

theorem told_then {first second : Outcome Value} (alike : told first = told second)
    (next : Value → Outcome Value) : told (first >>= next) = told (second >>= next) := by
  cases first with
  | error failure =>
      cases second with
      | error other => exact alike
      | ok other => cases alike
  | ok value =>
      cases second with
      | error other => cases alike
      | ok other =>
          obtain rfl : value = other := Except.ok.inj alike
          rfl

theorem told_execute {first second : Operation} {value : Value} (form : first.form = second.form)
    (mark : first.negated = second.negated)
    (alike : told (first.form.work first.name first.settings value) =
      told (second.form.work second.name second.settings value)) :
    told (first.execute value) = told (second.execute value) := by
  obtain ⟨shape, name, settings, negated⟩ := first
  obtain ⟨_, otherName, otherSettings, _⟩ := second
  cases form
  cases mark
  exact told_then alike _

theorem reported_same {kind : Kind} {name : Name} {first second : Settings}
    (index : first.get? "index" = second.get? "index") :
    reportedName kind name first = reportedName kind name second := by
  simp only [reportedName, stepName?, index]

theorem unnameable_same {kind : Kind} {name : Name} {first second : Settings}
    (index : first.get? "index" = second.get? "index") :
    unnameable kind name first = unnameable kind name second := by
  simp only [unnameable, index]

section Recording
variable {catalogue : Catalogue} {chain : Chain Operation} {label : String} {form : Form}
  {settings : Settings}

theorem apply_unnameable (unnamed : unnameable chain.kind (.text label) settings = true) :
    chain.apply catalogue (.text label) settings = .error (.operand .unwritableInteger) := by
  have refused := step_named catalogue chain.kind (.text label) settings
  rw [if_pos unnamed] at refused
  rw [Chain.apply, show Value.text label = (Name.text label).toValue from rfl, refused]
  rfl

theorem apply_bound (bound : catalogue.bound? chain.kind (.text label) = some form)
    (steady : form.Steady) (nonempty : Name.text label ≠ .text "")
    (nameable : unnameable chain.kind (.text label) settings = false)
    (complete : form.schema.missing settings = []) :
    chain.apply catalogue (.text label) settings = .ok (chain.add
      (form.operation (reportedName chain.kind (.text label) settings) settings)) := by
  rw [Chain.apply, show Value.text label = (Name.text label).toValue from rfl,
    step_steady bound steady nonempty nameable complete]
  rfl

end Recording

/-- A fluent call and `apply` with the name of the form and the settings that the call gives are refused
alike, for a setting that the name of the step would have to tell and that cannot be written, or they record
steps of that form with the same name and the same mark of negation, if no required setting is left out. The
steps answer every value alike, or fail on it with the same class of error and the same text. -/
theorem fluent_calls_agree_with_apply (chance : Edit.Chance) (catalogue : Catalogue)
    (chain : Chain Operation) {call : Call} {closing : Option Call} {label : String} {given : Settings}
    (records : Fluent.Records chain.kind call closing label given)
    (standing : catalogue.bound? chain.kind (.text label) =
      chance.catalogue.bound? chain.kind (.text label))
    (chosen : Settings) (same : ∀ name, chosen.get? name = given.get? name)
    (complete : ∀ form, chance.catalogue.bound? chain.kind (.text label) = some form →
      form.schema.missing chosen = []) :
    ∃ settings form,
      chance.catalogue.bound? chain.kind (.text label) = some form ∧
      call.request chain.kind closing = .ok (.record (.text label) settings) ∧
      Call.request chain.kind { method := "apply", positional := [.text label], named := chosen } none =
        .ok (.record (.text label) chosen) ∧
      (unnameable chain.kind (.text label) chosen = true →
        chain.perform catalogue (.record (.text label) settings) = .error (.operand .unwritableInteger) ∧
        chain.perform catalogue (.record (.text label) chosen) =
          .error (.operand .unwritableInteger)) ∧
      (unnameable chain.kind (.text label) chosen = false → ∃ fluent applied,
        chain.perform catalogue (.record (.text label) settings) = .ok (chain.push fluent) ∧
        chain.perform catalogue (.record (.text label) chosen) = .ok (chain.push applied) ∧
        fluent.form = form ∧ applied.form = form ∧ fluent.name = applied.name ∧
        fluent.negated = applied.negated ∧
        ∀ value, told (fluent.execute value) = told (applied.execute value)) := by
  obtain ⟨settings, standard?, asked, completes, index, form, bound, bears⟩ :=
    records_request chance records
  have completes : Completes standard? settings chosen := fun name => by rw [completes name, same name]
  have full : form.schema.missing chosen = [] := complete form bound
  have steady : form.Steady := Edit.Chance.bound_steady bound
  have nonempty : Name.text label ≠ .text "" := Edit.Chance.bound_nonempty bound
  have place : settings.get? "index" = chosen.get? "index" := completes.bare index
  rw [bound] at standing
  refine ⟨settings, form, bound, asked, rfl, ?refused, ?recorded⟩
  case refused =>
    intro unnamed
    exact ⟨apply_unnameable ((unnameable_same place).trans unnamed), apply_unnameable unnamed⟩
  case recorded =>
    intro nameable
    let recorded (settings : Settings) : Operation :=
      form.operation (reportedName chain.kind (.text label) settings) settings
    let marked (operation : Operation) : Operation :=
      if chain.negateNext then operation.negate else operation
    have named : reportedName chain.kind (.text label) settings =
        reportedName chain.kind (.text label) chosen := reported_same place
    have alike (value : Value) : told (form.work (reportedName chain.kind (.text label) settings)
        settings value) =
          told (form.work (reportedName chain.kind (.text label) chosen) chosen value) := by
      rw [named]
      exact bears settings chosen completes full _ value
    refine ⟨marked (recorded settings), marked (recorded chosen),
      apply_bound standing steady nonempty ((unnameable_same place).trans nameable)
        (completes.missing full), apply_bound standing steady nonempty nameable full, ?_⟩
    -- The mark of negation is put on both steps or on neither of them.
    simp only [marked]
    split
    · exact ⟨rfl, rfl, named, rfl, fun value => told_execute rfl rfl (alike value)⟩
    · exact ⟨rfl, rfl, named, rfl, fun value => told_execute rfl rfl (alike value)⟩

def openSplit : Call := { method := "split" }

def joinHyphens : Call := { method := "join", positional := [.text "-"] }

/-- To split a text into its characters and join them with hyphens is to apply a join with nothing but
the hyphen. -/
theorem split_and_join_applied :
    (Fluent.Records .transformation openSplit (some joinHyphens) "join" [("joiner", .text "-")] ∧
      Catalogue.builtIn.bound? .transformation (.text "join") = some Edit.joined ∧
      Edit.joined.schema.missing [("joiner", .text "-")] = []) ∧
    ∃ fluent applied : Operation,
      Chain.perform ⟨.transformation, .text "abc", [], false⟩ .builtIn
          (.record (.text "join") [("separator", .nothing), ("joiner", .text "-")]) =
        .ok ⟨.transformation, .text "abc", [fluent], false⟩ ∧
      Chain.perform ⟨.transformation, .text "abc", [], false⟩ .builtIn
          (.record (.text "join") [("joiner", .text "-")]) =
        .ok ⟨.transformation, .text "abc", [applied], false⟩ ∧
      fluent.name = applied.name ∧
      told (fluent.execute (.text "abc")) = told (applied.execute (.text "abc")) := by
  have records : Fluent.Records .transformation openSplit (some joinHyphens) "join"
      [("joiner", .text "-")] := by
    have listed := List.head_mem (List.cons_ne_nil _ _ : Fluent.openers .transformation ≠ [])
    have closes : ("join", Fluent.taking "join" [Fluent.offered "joiner" (.text "")]) ∈
        ((Fluent.openers .transformation).head (List.cons_ne_nil _ _)).closers :=
      List.mem_of_getElem? (i := 1) rfl
    exact .closed listed rfl closes rfl
  have bound : Catalogue.builtIn.bound? .transformation (.text "join") = some Edit.joined := rfl
  have complete : ∀ form, Catalogue.builtIn.bound? .transformation (.text "join") = some form →
      form.schema.missing [("joiner", .text "-")] = [] := by
    intro form found
    obtain rfl : Edit.joined = form := Option.some.inj (bound.symm.trans found)
    rfl
  obtain ⟨settings, form, _, asked, _, _, agree⟩ :=
    fluent_calls_agree_with_apply .standing .builtIn ⟨.transformation, .text "abc", [], false⟩ records rfl
      [("joiner", .text "-")] (fun _ => rfl) complete
  obtain ⟨fluent, applied, performed, again, _, _, name, _, alike⟩ := agree rfl
  obtain rfl : [("separator", .nothing), ("joiner", .text "-")] = settings := by
    have computed : openSplit.request .transformation (some joinHyphens) =
        .ok (.record (.text "join") [("separator", .nothing), ("joiner", .text "-")]) := rfl
    have settled := Except.ok.inj (computed.symm.trans asked)
    exact (Request.record.inj settled).2
  exact ⟨⟨records, bound, rfl⟩, fluent, applied, performed, again, name, alike (.text "abc")⟩

end TextChain
